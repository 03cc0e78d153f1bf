import EndpointScout.Domain.PublicSuffix
import EndpointScout.Script.Source
import EndpointScout.Web.Charset

/-! What a scan finds around it besides the sites: the list of public suffixes, decoders of
encodings, and how fast texts are read. -/
namespace EndpointScout

class Environment extends SuffixList, Web.Decoders, Script.Clock

/-- Suffixes that rules give, no further encodings, and a reader that needs some time but
never too much of it. -/
@[reducible] def Environment.ofRules (rules : List Domain.Rule) : Environment where
  toSuffixList := Domain.listOfRules rules
  decoder? _ := none
  ending deadline _ _ := if deadline = 0 then .abandoned else .finished

@[reducible] def Environment.plain : Environment := .ofRules []

end EndpointScout
