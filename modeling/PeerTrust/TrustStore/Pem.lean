import PeerTrust.Text.Basic

/-!
Certificates embedded in text, in PEM form.

A block stands between `-----BEGIN LABEL-----` and `-----END LABEL-----`.  It may start with
headers, which an empty line ends; what follows is data in base 64, in which white space is of no
account wherever it stands.  Text between the blocks is passed over, and so is what stands from a
block on that is never closed.  But every block that is closed must be well formed, whatever it
holds, and a block with the label of a certificate must hold one.

What a certificate is, is not the business of this module.  The content of a file is therefore not
a text: the encoded body of a certificate counts as one symbol in it, next to the characters.
-/

namespace PeerTrust

/-! ## Base 64

Four characters stand for three bytes.  A last group that stands for fewer is filled up with `=`,
and the bits that it does not need must be zero, so that there is one way to write any bytes. -/

namespace Text

/-- The six bits that a character stands for. -/
def base64Value? (c : Char) : Option Nat :=
  if c.isUpper then some (c.toNat - 'A'.toNat)
  else if c.isLower then some (c.toNat - 'a'.toNat + 26)
  else if c.isDigit then some (c.toNat - '0'.toNat + 52)
  else if c = '+' then some 62
  else if c = '/' then some 63
  else none

/-- The character stands for six bits of which the last ones, as many as the divisor has, are
zero. -/
def endsInZeros (c : Char) (divisor : Nat) : Bool := (base64Value? c).any (· % divisor == 0)

/-- The text encodes some bytes, perhaps none. -/
def isBase64 : Text → Bool
  | [] => true
  | [a, b, '=', '='] => endsInZeros a 1 && endsInZeros b 16
  | [a, b, c, '='] => endsInZeros a 1 && endsInZeros b 1 && endsInZeros c 4
  | a :: b :: c :: d :: rest => [a, b, c, d].all (endsInZeros · 1) && isBase64 rest
  | _ => false

end Text

/-! ## Files -/

/-- A symbol in a file: a character, or the encoded body of a certificate. -/
inductive Symbol (C : Type) where
  | char (c : Char)
  | body (certificate : C)

/-- The content of a file. -/
abbrev Content (C : Type) := List (Symbol C)

namespace Symbol

variable {C : Type}

/-- The character, if the symbol is one. -/
def char? : Symbol C → Option Char
  | char c => some c
  | body _ => none

/-- The symbol is a character of this class. -/
def isIn (p : Char → Bool) (x : Symbol C) : Bool := x.char?.any p

end Symbol

namespace Pem

variable {C : Type}

/-! ## Writing -/

/-- Text as the content of a file. -/
def ofText (t : Text) : Content C := t.map .char

/-- A certificate as it is written to a file. -/
def encode (certificate : C) : Content C :=
  ofText "-----BEGIN CERTIFICATE-----\n".toList ++
    .body certificate :: ofText "\n-----END CERTIFICATE-----\n".toList

/-! ## Finding a marker -/

/-- What is read until the wanted rest of a marker has come, and what follows.  A symbol that does
not fit is passed over and the whole marker is wanted again, so a marker is missed when its own
first characters stand directly in front of it. -/
def seek? (marker : Text) : (wanted : Text) → Content C → Option (Content C × Content C)
  | [], s => some ([], s)
  | _ :: _, [] => none
  | w :: ws, x :: s =>
    (if x.isIn (· == w) then seek? marker ws s else seek? marker marker s).map
      fun (before, rest) => (x :: before, rest)

/-- What stands before a marker, and what follows it. -/
def cutAt? (marker : Text) (s : Content C) : Option (Content C × Content C) :=
  (seek? marker marker s).map fun (read, rest) =>
    (read.take (read.length - marker.length), rest)

theorem length_lt_of_seek? {marker wanted : Text} (hm : marker ≠ []) (hw : wanted ≠ [])
    {s read rest : Content C} (h : seek? marker wanted s = some (read, rest)) :
    rest.length < s.length := by
  induction s generalizing wanted read with
  | nil =>
    cases wanted with
    | nil => exact absurd rfl hw
    | cons => simp [seek?] at h
  | cons x s ih =>
    cases wanted with
    | nil => exact absurd rfl hw
    | cons w ws =>
      simp only [seek?, Option.map_eq_some_iff, Prod.mk.injEq] at h
      obtain ⟨⟨read', rest'⟩, h, -, rfl⟩ := h
      split at h
      · cases ws with
        | nil =>
          simp only [seek?, Option.some.injEq, Prod.mk.injEq] at h
          simp [← h.2]
        | cons => exact Nat.lt_succ_of_lt (ih (by simp) h)
      · exact Nat.lt_succ_of_lt (ih hm h)

/-- A marker takes something away. -/
theorem length_lt_of_cutAt? {marker : Text} (hm : marker ≠ []) {s before rest : Content C}
    (h : cutAt? marker s = some (before, rest)) : rest.length < s.length := by
  simp only [cutAt?, Option.map_eq_some_iff, Prod.mk.injEq] at h
  obtain ⟨⟨_, _⟩, h, -, rfl⟩ := h
  exact length_lt_of_seek? hm hm h

/-! ## Blocks -/

/-- A block that is closed. -/
structure Block (C : Type) where
  /-- The label in front of the block. -/
  opening : Content C
  headers : Content C
  data : Content C
  /-- The label behind the block. -/
  closing : Content C

/-- The rest of a line that is left empty, and empty lines. -/
def skipLayout (s : Content C) : Content C :=
  s.dropWhile (·.isIn fun c => c == ' ' || c == '\t' || c == '\n' || c == '\r')

theorem skipLayout_length_le (s : Content C) : (skipLayout s).length ≤ s.length :=
  (List.dropWhile_suffix _).length_le

/-- The headers and the data in the body of a block. -/
def headersAndData (s : Content C) : Content C × Content C :=
  ((cutAt? ['\n', '\n'] s).orElse fun _ => cutAt? ['\r', '\n', '\r', '\n'] s).getD ([], s)

/-- The first block, and what follows it. -/
def block? (s : Content C) : Option (Block C × Content C) := do
  let (_, s) ← cutAt? "-----BEGIN ".toList s
  let (opening, s) ← cutAt? "-----".toList s
  let (body, s) ← cutAt? "-----END ".toList (skipLayout s)
  let (closing, s) ← cutAt? "-----".toList s
  let (headers, data) := headersAndData body
  some (⟨opening, headers, data, closing⟩, skipLayout s)

/-- A block takes something away. -/
theorem length_lt_of_block? {s rest : Content C} {b : Block C} (h : block? s = some (b, rest)) :
    rest.length < s.length := by
  simp only [block?, Option.bind_eq_bind, Option.bind_eq_some_iff] at h
  obtain ⟨⟨_, s₁⟩, h₁, ⟨_, s₂⟩, h₂, ⟨_, s₃⟩, h₃, ⟨_, s₄⟩, h₄, h⟩ := h
  simp only [Option.some.injEq, Prod.mk.injEq] at h
  have : s₁.length < s.length := length_lt_of_cutAt? (by decide) h₁
  have : s₂.length < s₁.length := length_lt_of_cutAt? (by decide) h₂
  have : s₃.length < (skipLayout s₂).length := length_lt_of_cutAt? (by decide) h₃
  have : s₄.length < s₃.length := length_lt_of_cutAt? (by decide) h₄
  have := skipLayout_length_le s₂
  have := skipLayout_length_le s₄
  rw [← h.2]
  omega

/-- All blocks, in their order. -/
def blocks (s : Content C) : List (Block C) :=
  match _h : block? s with
  | none => []
  | some (b, rest) => b :: blocks rest
termination_by s.length
decreasing_by exact length_lt_of_block? _h

/-! ## What blocks hold -/

/-- The text, if the content is nothing else. -/
def text? (s : Content C) : Option Text := s.mapM Symbol.char?

/-- The lines of some content; a line feed at the end starts no line of its own. -/
def lines (s : Content C) : List (Content C) :=
  let pieces := s.splitOnP (·.isIn (· == '\n'))
  if pieces.getLast?.any (·.isEmpty) then pieces.dropLast else pieces

/-- The content without its white space. -/
def withoutSpace (s : Content C) : Content C := s.filter (!·.isIn isWhiteSpace)

/-- What a block holds. -/
inductive Payload (C : Type) where
  | certificate (c : C)
  /-- Something that is no certificate and does not claim to be one. -/
  | other

/-- The label announces a certificate. -/
def isCertificateLabel (label : Text) : Bool :=
  label == "CERTIFICATE".toList || label == "X509 CERTIFICATE".toList

/-- What a block holds, if it is well formed: its labels agree and are not empty, its headers have
colons, its data is in base 64, and it holds a certificate if it says so. -/
def Block.payload? (b : Block C) : Option (Payload C) := do
  let label ← text? b.opening
  if label.isEmpty || (text? b.closing) != some label then none
  else if (lines b.headers).any fun line => !line.any (·.isIn (· == ':')) then none
  else
    match withoutSpace b.data with
    | [.body c] => some (if isCertificateLabel label then .certificate c else .other)
    | data =>
      if (← text? data).isBase64 && !isCertificateLabel label then some .other else none

/-- The certificate that a block holds. -/
def Payload.certificate? : Payload C → Option C
  | certificate c => some c
  | other => none

/-- The certificates of a file, in their order, unless a block is malformed or there is none. -/
def certificates? (s : Content C) : Option (List C) := do
  match (← (blocks s).mapM Block.payload?).filterMap Payload.certificate? with
  | [] => none
  | certificates => some certificates

end Pem

end PeerTrust
