import PeerTrust.Text.Basic

/-!
IP addresses of either version, as they are written.

There is exactly one written form of an IPv4 address: four decimal octets without leading zeros.  So
reading accepts exactly what printing produces, and two texts denote the same address only if they
are equal.

An IPv6 address is eight groups of sixteen bits.  It has many written forms: groups may have leading
zeros and either case, a gap `::` stands for one or more groups of zeros, and the last two groups
may be written as an IPv4 address.  Printing chooses one of them, in which the first of the longest
runs of at least two zero groups becomes the gap.  The zone is the text after the percent sign.  It
is part of the address and kept as it is written.
-/

namespace PeerTrust

/-! ## Version 4 -/

/-- An IPv4 address, as its four octets. -/
structure IPv4 where
  a : UInt8
  b : UInt8
  c : UInt8
  d : UInt8
deriving DecidableEq, Repr

namespace IPv4

/-- An octet: one to three decimal digits, no needless zero in front, at most 255. -/
def octet? (s : Text) : Option UInt8 :=
  if s.length ≤ 3 ∧ (s = ['0'] ∨ s.head? ≠ some '0') then
    match s.numeral? 10 with
    | some n => if n ≤ 255 then some (UInt8.ofNat n) else none
    | none => none
  else none

/-- An octet in decimal. -/
def octetText (n : UInt8) : Text := Nat.toDigits 10 n.toNat

/-- The address that a text denotes: four octets with full stops between them. -/
def parse? (s : Text) : Option IPv4 :=
  match s.splitOn '.' with
  | [a, b, c, d] => do some ⟨← octet? a, ← octet? b, ← octet? c, ← octet? d⟩
  | _ => none

/-- The address in dotted decimal. -/
def toText (x : IPv4) : Text :=
  ['.'].intercalate [octetText x.a, octetText x.b, octetText x.c, octetText x.d]

/-- The address as two groups of sixteen bits, the more significant first. -/
def toGroups (x : IPv4) : List UInt16 :=
  [UInt16.ofNat (x.a.toNat * 256 + x.b.toNat), UInt16.ofNat (x.c.toNat * 256 + x.d.toNat)]

end IPv4

/-! ## Version 6 -/

/-- An IPv6 address: eight groups and perhaps a zone. -/
structure IPv6 where
  groups : List UInt16
  zone : Option Text
  length_groups : groups.length = 8
deriving DecidableEq, Repr

namespace IPv6

/-! ### Reading -/

/-- A group: one to four hexadecimal digits. -/
def group? (s : Text) : Option UInt16 :=
  if s.length ≤ 4 then (s.numeral? 16).map UInt16.ofNat else none

/-- The parts of a written address up to its end, where the last part may be an IPv4 address. -/
def closing? : List Text → Option (List UInt16)
  | [] => some []
  | [last] => if last.contains '.' then (IPv4.parse? last).map IPv4.toGroups
      else (group? last).map ([·])
  | part :: parts => do some ((← group? part) :: (← closing? parts))

/-- The colon-separated parts of a text; an empty text has none. -/
def parts (s : Text) : List Text := if s.isEmpty then [] else s.splitOn ':'

/-- What stands before and after the first gap. -/
def splitGap? : Text → Option (Text × Text)
  | [] => none
  | c :: rest =>
    if c = ':' ∧ rest.head? = some ':' then some ([], rest.tail)
    else (splitGap? rest).map fun (front, back) => (c :: front, back)

/-- The groups of a written address.  A gap stands for at least one group. -/
def groups? (s : Text) : Option (List UInt16) :=
  match splitGap? s with
  | none => closing? (parts s)
  | some (front, back) => do
    -- Only the end of the whole address may be an IPv4 address, so the front has plain groups.
    let high ← (parts front).mapM group?
    let low ← closing? (parts back)
    if high.length + low.length < 8 then
      some (high ++ List.replicate (8 - (high.length + low.length)) 0 ++ low)
    else none

/-- The zone of a written address, if the percent sign announces one; a zone that is empty or
holds another percent sign is an error. -/
def zone? (s : Text) : Option (Option Text) :=
  match s.past? '%' with
  | none => some none
  | some zone => if zone.isEmpty ∨ '%' ∈ zone then none else some (some zone)

/-- The address that a text denotes.  A slash, which would announce the length of a network's
mask, excludes it. -/
def parse? (s : Text) : Option IPv6 :=
  if '/' ∈ s then none
  else
    match zone? s, groups? (s.upTo '%') with
    | some zone, some groups => if h : groups.length = 8 then some ⟨groups, zone, h⟩ else none
    | _, _ => none

/-! ### Printing -/

/-- A group in hexadecimal. -/
def groupText (g : UInt16) : Text := Nat.toDigits 16 g.toNat

/-- Groups with colons between them. -/
def groupsText (gs : List UInt16) : Text := [':'].intercalate (gs.map groupText)

/-- Start and length of the first longest run of zeros. -/
def longestZeroRun : List UInt16 → Nat × Nat
  | [] => (0, 0)
  | g :: gs =>
    let here := ((g :: gs).takeWhile (· == 0)).length
    let (start, length) := longestZeroRun gs
    -- A run that starts here wins against later ones of the same length.
    if length ≤ here then (0, here) else (start + 1, length)

/-- The groups of an address, with a gap for the first longest run of at least two zeros. -/
def addressText (gs : List UInt16) : Text :=
  let (start, length) := longestZeroRun gs
  if length < 2 then groupsText gs
  else groupsText (gs.take start) ++ ':' :: ':' :: groupsText (gs.drop (start + length))

/-- The address in its chosen written form. -/
def toText (x : IPv6) : Text :=
  addressText x.groups ++
    match x.zone with
    | none => []
    | some zone => '%' :: zone

end IPv6

/-! ## Either version -/

/-- An IPv4 or IPv6 address. -/
inductive IpAddress where
  | v4 (address : IPv4)
  | v6 (address : IPv6)
deriving DecidableEq, Repr

namespace IpAddress

/-- The address that a text denotes. -/
def parse? (s : Text) : Option IpAddress :=
  match IPv4.parse? s with
  | some x => some (.v4 x)
  | none => (IPv6.parse? s).map .v6

/-- The address in its chosen written form. -/
def toText : IpAddress → Text
  | v4 x => x.toText
  | v6 x => x.toText

end IpAddress

end PeerTrust
