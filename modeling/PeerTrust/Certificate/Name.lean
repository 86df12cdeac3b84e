import PeerTrust.Text.Basic

/-!
Distinguished names and their text.

A distinguished name is a sequence of parts, from the broadest to the most specific.  A part is
usually one attribute, and may be several, which then stand in the order of their encoding.  The
text of a name has the parts the other way round, separated by commas, and each attribute as
`TYPE=value`, with a plus sign between those of one part.  Characters that have a meaning in this
notation are escaped in the values: separators everywhere, a number sign only at the front, a blank
only at either end.
-/

namespace PeerTrust

/-- The type of an attribute of a distinguished name. -/
inductive AttributeType where
  | commonName
  | locality
  | state
  | organization
  | organizationalUnit
  | country
  | street
  | domainComponent
  | userId
  | surname
  | givenName
  | title
  | serialNumber
  | email
  | other (identifier : Text)
deriving DecidableEq, Repr

/-- The type in the text of a name: its short form if there is one, and otherwise its object
identifier. -/
def AttributeType.label : AttributeType → Text
  | commonName => "CN".toList
  | locality => "L".toList
  | state => "ST".toList
  | organization => "O".toList
  | organizationalUnit => "OU".toList
  | country => "C".toList
  | street => "STREET".toList
  | domainComponent => "DC".toList
  | userId => "UID".toList
  | surname => "2.5.4.4".toList
  | givenName => "2.5.4.42".toList
  | title => "2.5.4.12".toList
  | serialNumber => "2.5.4.5".toList
  | email => "1.2.840.113549.1.9.1".toList
  | other identifier => identifier

/-- One attribute of a distinguished name. -/
structure Attribute where
  type : AttributeType
  value : Text
deriving DecidableEq, Repr

/-- A distinguished name, from the broadest part to the most specific. -/
structure DistinguishedName where
  parts : List (List Attribute)
deriving DecidableEq, Repr

namespace DistinguishedName

/-- The characters of a value that are escaped wherever they stand. -/
def specials : List Char := ['\\', '"', '+', ',', ';', '<', '>']

/-- A character of a value. -/
def escapeChar (c : Char) : Text :=
  if specials.contains c then ['\\', c]
  else if c = '\x00' then ['\\', '0', '0']
  else [c]

/-- A value whose first character would be misread has a backslash in front. -/
def escapeFront (s : Text) : Text :=
  if s.head? = some '#' ∨ (s.head? = some ' ' ∧ 1 < s.length) then '\\' :: s else s

/-- A blank at the end has a backslash in front. -/
def escapeBack (s : Text) : Text :=
  if s.getLast? = some ' ' then s.dropLast ++ ['\\', ' '] else s

/-- A value in the text of a name. -/
def escapeValue (value : Text) : Text := escapeBack (escapeFront (value.flatMap escapeChar))

/-- The attributes of all parts, in order. -/
def attributes (name : DistinguishedName) : List Attribute := name.parts.flatten

/-- The text of a part. -/
def partText (part : List Attribute) : Text :=
  ['+'].intercalate (part.map fun a => a.type.label ++ '=' :: escapeValue a.value)

/-- The text of a name, the most specific part first. -/
def toText (name : DistinguishedName) : Text := [','].intercalate (name.parts.reverse.map partText)

/-- The values of all attributes of a type, in order. -/
def values (name : DistinguishedName) (type : AttributeType) : List Text :=
  (name.attributes.filter (·.type == type)).map (·.value)

end DistinguishedName

end PeerTrust
