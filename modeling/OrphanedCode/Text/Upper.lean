import OrphanedCode.Text.RangeTable
/-!
Upper case: the full Unicode upper-case mapping (Unicode 17.0), where one character may become
several (`ß` becomes `SS`).

The simple mappings are stored as runs `start:count:step:delta` (hexadecimal start, then decimal
numbers): the characters `start`, `start + step`, … (`count` of them) each move by `delta`. The
mappings to several characters are listed one by one.
-/

namespace OrphanedCode.Text

/-- A run of characters whose upper case lies at the same distance. -/
structure CaseRun where
  start : Nat
  count : Nat
  step : Nat
  delta : Int

/-- Reads a decimal numeral with an optional leading minus sign. -/
def readSigned (s : String) : Int :=
  match s.toList with
  | '-' :: ds => -((String.ofList ds).toNat?.getD 0 : Int)
  | ds => ((String.ofList ds).toNat?.getD 0 : Int)

/-- Reads one word `start:count:step:delta`. -/
def CaseRun.read? (w : String) : Option CaseRun :=
  match w.splitOn ":" with
  | [s, n, k, d] => some ⟨RangeTable.readHex s, n.toNat?.getD 0, k.toNat?.getD 1, readSigned d⟩
  | _ => none

/-- Whether the run holds the code point `n`. -/
def CaseRun.holds (r : CaseRun) (n : Nat) : Bool :=
  r.start ≤ n && n < r.start + r.count * r.step && (n - r.start) % r.step == 0

/-- The table text of the simple upper-case mappings. -/
def upperRunsText : String :=
  "61:26:1:-32 B5:1:1:743 E0:23:1:-32 F8:7:1:-32 FF:1:1:121 101:24:2:-1 131:1:1:-232 " ++
  "133:3:2:-1 13A:8:2:-1 14B:23:2:-1 17A:3:2:-1 17F:1:1:-300 180:1:1:195 183:2:2:-1 " ++
  "188:1:1:-1 18C:1:1:-1 192:1:1:-1 195:1:1:97 199:1:1:-1 19A:1:1:163 19B:1:1:42561 " ++
  "19E:1:1:130 1A1:3:2:-1 1A8:1:1:-1 1AD:1:1:-1 1B0:1:1:-1 1B4:2:2:-1 1B9:1:1:-1 1BD:1:1:-1 " ++
  "1BF:1:1:56 1C5:1:1:-1 1C6:1:1:-2 1C8:1:1:-1 1C9:1:1:-2 1CB:1:1:-1 1CC:1:1:-2 1CE:8:2:-1 " ++
  "1DD:1:1:-79 1DF:9:2:-1 1F2:1:1:-1 1F3:1:1:-2 1F5:1:1:-1 1F9:20:2:-1 223:9:2:-1 " ++
  "23C:1:1:-1 23F:2:1:10815 242:1:1:-1 247:5:2:-1 250:1:1:10783 251:1:1:10780 252:1:1:10782 " ++
  "253:1:1:-210 254:1:1:-206 256:2:1:-205 259:1:1:-202 25B:1:1:-203 25C:1:1:42319 " ++
  "260:1:1:-205 261:1:1:42315 263:1:1:-207 264:1:1:42343 265:1:1:42280 266:1:1:42308 " ++
  "268:1:1:-209 269:1:1:-211 26A:1:1:42308 26B:1:1:10743 26C:1:1:42305 26F:1:1:-211 " ++
  "271:1:1:10749 272:1:1:-213 275:1:1:-214 27D:1:1:10727 280:1:1:-218 282:1:1:42307 " ++
  "283:1:1:-218 287:1:1:42282 288:1:1:-218 289:1:1:-69 28A:2:1:-217 28C:1:1:-71 " ++
  "292:1:1:-219 29D:1:1:42261 29E:1:1:42258 345:1:1:84 371:2:2:-1 377:1:1:-1 37B:3:1:130 " ++
  "3AC:1:1:-38 3AD:3:1:-37 3B1:17:1:-32 3C2:1:1:-31 3C3:9:1:-32 3CC:1:1:-64 3CD:2:1:-63 " ++
  "3D0:1:1:-62 3D1:1:1:-57 3D5:1:1:-47 3D6:1:1:-54 3D7:1:1:-8 3D9:12:2:-1 3F0:1:1:-86 " ++
  "3F1:1:1:-80 3F2:1:1:7 3F3:1:1:-116 3F5:1:1:-96 3F8:1:1:-1 3FB:1:1:-1 430:32:1:-32 " ++
  "450:16:1:-80 461:17:2:-1 48B:27:2:-1 4C2:7:2:-1 4CF:1:1:-15 4D1:48:2:-1 561:38:1:-48 " ++
  "10D0:43:1:3008 10FD:3:1:3008 13F8:6:1:-8 1C80:1:1:-6254 1C81:1:1:-6253 1C82:1:1:-6244 " ++
  "1C83:2:1:-6242 1C85:1:1:-6243 1C86:1:1:-6236 1C87:1:1:-6181 1C88:1:1:35266 1C8A:1:1:-1 " ++
  "1D79:1:1:35332 1D7D:1:1:3814 1D8E:1:1:35384 1E01:75:2:-1 1E9B:1:1:-59 1EA1:48:2:-1 " ++
  "1F00:8:1:8 1F10:6:1:8 1F20:8:1:8 1F30:8:1:8 1F40:6:1:8 1F51:4:2:8 1F60:8:1:8 1F70:2:1:74 " ++
  "1F72:4:1:86 1F76:2:1:100 1F78:2:1:128 1F7A:2:1:112 1F7C:2:1:126 1FB0:2:1:8 " ++
  "1FBE:1:1:-7205 1FD0:2:1:8 1FE0:2:1:8 1FE5:1:1:7 214E:1:1:-28 2170:16:1:-16 2184:1:1:-1 " ++
  "24D0:26:1:-26 2C30:48:1:-48 2C61:1:1:-1 2C65:1:1:-10795 2C66:1:1:-10792 2C68:3:2:-1 " ++
  "2C73:1:1:-1 2C76:1:1:-1 2C81:50:2:-1 2CEC:2:2:-1 2CF3:1:1:-1 2D00:38:1:-7264 " ++
  "2D27:1:1:-7264 2D2D:1:1:-7264 A641:23:2:-1 A681:14:2:-1 A723:7:2:-1 A733:31:2:-1 " ++
  "A77A:2:2:-1 A77F:5:2:-1 A78C:1:1:-1 A791:2:2:-1 A794:1:1:48 A797:10:2:-1 A7B5:8:2:-1 " ++
  "A7C8:2:2:-1 A7CD:8:2:-1 A7F6:1:1:-1 AB53:1:1:-928 AB70:80:1:-38864 FF41:26:1:-32 " ++
  "10428:40:1:-40 104D8:36:1:-40 10597:11:1:-39 105A3:15:1:-39 105B3:7:1:-39 105BB:2:1:-39 " ++
  "10CC0:51:1:-64 10D70:22:1:-32 118C0:32:1:-32 16E60:32:1:-32 16EBB:25:1:-27 " ++
  "1E922:34:1:-34"

/-- The runs of simple upper-case mappings. -/
def upperRuns : List CaseRun :=
  (upperRunsText.splitOn " ").filterMap CaseRun.read?

/-- Reads one word `code:upper,upper,…` of the list of longer mappings. -/
def readSpecial? (w : String) : Option (Nat × List Nat) :=
  match w.splitOn ":" with
  | [s, us] => some (RangeTable.readHex s, (us.splitOn ",").map RangeTable.readHex)
  | _ => none

/-- The table text of the mappings to several characters. -/
def upperSpecialsText : String :=
  "DF:53,53 149:2BC,4E 1F0:4A,30C 390:399,308,301 3B0:3A5,308,301 587:535,552 1E96:48,331 " ++
  "1E97:54,308 1E98:57,30A 1E99:59,30A 1E9A:41,2BE 1F50:3A5,313 1F52:3A5,313,300 " ++
  "1F54:3A5,313,301 1F56:3A5,313,342 1F80:1F08,399 1F81:1F09,399 1F82:1F0A,399 " ++
  "1F83:1F0B,399 1F84:1F0C,399 1F85:1F0D,399 1F86:1F0E,399 1F87:1F0F,399 1F88:1F08,399 " ++
  "1F89:1F09,399 1F8A:1F0A,399 1F8B:1F0B,399 1F8C:1F0C,399 1F8D:1F0D,399 1F8E:1F0E,399 " ++
  "1F8F:1F0F,399 1F90:1F28,399 1F91:1F29,399 1F92:1F2A,399 1F93:1F2B,399 1F94:1F2C,399 " ++
  "1F95:1F2D,399 1F96:1F2E,399 1F97:1F2F,399 1F98:1F28,399 1F99:1F29,399 1F9A:1F2A,399 " ++
  "1F9B:1F2B,399 1F9C:1F2C,399 1F9D:1F2D,399 1F9E:1F2E,399 1F9F:1F2F,399 1FA0:1F68,399 " ++
  "1FA1:1F69,399 1FA2:1F6A,399 1FA3:1F6B,399 1FA4:1F6C,399 1FA5:1F6D,399 1FA6:1F6E,399 " ++
  "1FA7:1F6F,399 1FA8:1F68,399 1FA9:1F69,399 1FAA:1F6A,399 1FAB:1F6B,399 1FAC:1F6C,399 " ++
  "1FAD:1F6D,399 1FAE:1F6E,399 1FAF:1F6F,399 1FB2:1FBA,399 1FB3:391,399 1FB4:386,399 " ++
  "1FB6:391,342 1FB7:391,342,399 1FBC:391,399 1FC2:1FCA,399 1FC3:397,399 1FC4:389,399 " ++
  "1FC6:397,342 1FC7:397,342,399 1FCC:397,399 1FD2:399,308,300 1FD3:399,308,301 " ++
  "1FD6:399,342 1FD7:399,308,342 1FE2:3A5,308,300 1FE3:3A5,308,301 1FE4:3A1,313 " ++
  "1FE6:3A5,342 1FE7:3A5,308,342 1FF2:1FFA,399 1FF3:3A9,399 1FF4:38F,399 1FF6:3A9,342 " ++
  "1FF7:3A9,342,399 1FFC:3A9,399 FB00:46,46 FB01:46,49 FB02:46,4C FB03:46,46,49 " ++
  "FB04:46,46,4C FB05:53,54 FB06:53,54 FB13:544,546 FB14:544,535 FB15:544,53B FB16:54E,546 " ++
  "FB17:544,53D"

/-- The characters whose upper case has several characters. -/
def upperSpecials : List (Nat × List Nat) :=
  (upperSpecialsText.splitOn " ").filterMap readSpecial?

/-- The upper case of one character, as one or more characters. -/
def upperChar (c : Char) : List Char :=
  let n := c.toNat
  if n < 0x80 then [c.toUpper]
  else
    match upperSpecials.lookup n with
    | some us => us.map Char.ofNat
    | none =>
      match upperRuns.find? (·.holds n) with
      | some r => [Char.ofNat (n + r.delta).toNat]
      | none => [c]

/-- The upper case of a text, character by character. -/
def upper (s : String) : String :=
  String.ofList (s.toList.flatMap upperChar)

end OrphanedCode.Text
