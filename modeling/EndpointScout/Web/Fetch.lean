import EndpointScout.Web.Client

/-! Pages and scripts by their URLs. Whatever fails is an empty text. -/
namespace EndpointScout.Web

structure Fetcher where
  pages : Client
  scripts : Client
  pageTimeout : Nat
  scriptTimeout : Nat
deriving Repr, DecidableEq

namespace Fetcher

def create (config : Config) : Except ScanError Fetcher := do
  pure ⟨← Client.create config config.pageMaxRedirects,
    ← Client.create config config.scriptMaxRedirects, config.pageTimeout, config.scriptTimeout⟩

/-- A page; only an answer of success counts. -/
def page [Decoders] (f : Fetcher) (site : Site) (url : Text) (log : Log) : Text × Log :=
  match f.pages.get site f.pageTimeout url log with
  | (some r, log) => (if r.isSuccess then r.text else [], log)
  | (none, log) => ([], log)

/-- A script; any answer but an error counts, and it is read as UTF-8. -/
def script (f : Fetcher) (site : Site) (url : Text) (log : Log) : Text × Log :=
  match f.scripts.get site f.scriptTimeout url log with
  | (some r, log) => (if r.status < 400 then Text.Utf8.decodeLossy r.content else [], log)
  | (none, log) => ([], log)

end Fetcher

end EndpointScout.Web
