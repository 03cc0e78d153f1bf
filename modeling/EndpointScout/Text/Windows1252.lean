import EndpointScout.Text.Utf8

/-! The single-byte encoding windows-1252. -/
namespace EndpointScout.Text.Windows1252

def upperCodes : List Nat :=
  [0x20AC, 0x81, 0x201A, 0x192, 0x201E, 0x2026, 0x2020, 0x2021, 0x2C6, 0x2030, 0x160, 0x2039,
    0x152, 0x8D, 0x17D, 0x8F, 0x90, 0x2018, 0x2019, 0x201C, 0x201D, 0x2022, 0x2013, 0x2014,
    0x2DC, 0x2122, 0x161, 0x203A, 0x153, 0x9D, 0x17E, 0x178]

def code (n : Nat) : Nat :=
  if 0x80 ≤ n && n < 0xA0 then upperCodes.getD (n - 0x80) n else n

def decode (bytes : Utf8.Bytes) : Text := bytes.map fun b => Char.ofNat (code b.toNat)

end EndpointScout.Text.Windows1252
