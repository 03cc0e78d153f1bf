import EndpointScout.Text.Basic

/-! Limits of a scan on time, size and redirections. -/
namespace EndpointScout

/-- Durations are in milliseconds. -/
structure Config where
  userAgent : Text :=
    "Mozilla/5.0 (Windows NT 10.0; Win64; x64) AppleWebKit/537.36 (KHTML, like Gecko) Chrome/91.0.4472.124 Safari/537.36".toList
  pageTimeout : Nat := 10000
  pageMaxRedirects : Nat := 5
  scriptTimeout : Nat := 8000
  scriptMaxRedirects : Nat := 3
  probeGetTimeout : Nat := 5000
  probeHeadTimeout : Nat := 3000
  probeMaxRedirects : Nat := 3
  maxScriptBytes : Nat := 1024 * 1024
  parseDeadline : Nat := 10000
  archiveEndpoint : Text := "https://web.archive.org".toList
deriving Repr, DecidableEq

end EndpointScout
