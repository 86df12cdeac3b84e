import PeerTrust.Text.Quoted
import PeerTrust.Value.Floating

/-!
Loosely typed values.

Settings, socket addresses and the entries of an identity set come from the outside without a
type: a list of names may be a text, a list or nothing at all, and an address may be a pair, a
path or a number.  `Value` is what such a place may hold.  Two questions are asked of every value:
whether it is `vacuous`, so that it counts as not given, and what its `elements` are when a
sequence is wanted.

A value has two forms as text.  The literal form shows what kind of value it is: texts are quoted,
lists stand in brackets, tuples in parentheses with a comma after a single element, tables in
braces.  The display form differs from it only at the top, where a text is shown as it is.

Values of the kinds that data is made of are known in full.  Any other one is an object, of which
only the answers to these questions are known, and these may be any at all.  What has no text is no
value: neither an object whose text cannot be made nor a whole number with more digits than may be
written out.
-/

namespace PeerTrust

/-- What an object is made of. -/
inductive Shape (α : Type) where
  | single
  /-- It is the path of a file, which is what it displays. -/
  | path
  | sequence (items : List α)

/-- What is known of an object: the name of its type, its texts, and what it counts as. -/
structure Foreign (α : Type) where
  type : Text
  display : Text
  literal : Text
  vacuous : Bool
  /-- It can be looked up by.  No text is equal to it. -/
  isKey : Bool
  shape : Shape α

/-- A value of no fixed type. -/
inductive Value where
  | null
  | bool (b : Bool)
  | int (n : Int)
  | floating (x : Floating)
  | text (s : Text)
  | list (items : List Value)
  | tuple (items : List Value)
  | table (entries : List (Text × Value))
  | object (o : Foreign Value)
deriving Inhabited

namespace Value

/-- The value stands for nothing: null, false, zero, or an empty text or collection. -/
def vacuous : Value → Bool
  | null => true
  | bool b => !b
  | int n => n == 0
  | floating x => x.isZero
  | text s => s.isEmpty
  | list items => items.isEmpty
  | tuple items => items.isEmpty
  | table entries => entries.isEmpty
  | object o => o.vacuous

/-- The text, if the value is one. -/
def text? : Value → Option Text
  | text s => some s
  | _ => none

/-- The text, if there is one. -/
def ofText? : Option Text → Value
  | some s => text s
  | none => null

/-- The text of a value that names files: a text, or a path as it displays itself. -/
def pathText? : Value → Option Text
  | text s => some s
  | object ⟨_, display, _, _, _, .path⟩ => some display
  | _ => none

/-- The kind of a value. -/
inductive Kind where
  | null
  | bool
  | int
  | floating
  | text
  | list
  | tuple
  | table
  /-- Objects of a type with this name. -/
  | foreign (type : Text)
deriving DecidableEq, Repr

/-- The name of a kind, as diagnostics spell it. -/
def Kind.name : Kind → Text
  | null => "NoneType".toList
  | bool => "bool".toList
  | int => "int".toList
  | floating => "float".toList
  | text => "str".toList
  | list => "list".toList
  | tuple => "tuple".toList
  | table => "dict".toList
  | foreign type => type

/-- The kind of a value. -/
def kind : Value → Kind
  | null => .null
  | bool _ => .bool
  | int _ => .int
  | floating _ => .floating
  | text _ => .text
  | list _ => .list
  | tuple _ => .tuple
  | table _ => .table
  | object o => .foreign o.type

/-- A single value, of this kind, stands where a sequence is wanted. -/
structure NotIterable where
  kind : Kind
deriving DecidableEq, Repr

/-- What is said when a single value stands where a sequence is wanted. -/
def NotIterable.message (e : NotIterable) : Text :=
  '\'' :: e.kind.name ++ "' object is not iterable".toList

/-- The elements of a sequence: a text has its characters, a table has its keys. -/
def elements : Value → Except NotIterable (List Value)
  | text s => .ok (s.map fun c => text [c])
  | list items => .ok items
  | tuple items => .ok items
  | table entries => .ok (entries.map fun e => text e.1)
  | object ⟨_, _, _, _, _, .sequence items⟩ => .ok items
  | single => .error ⟨single.kind⟩

/-! ## Values as text -/

/-- Whole numbers in decimal. -/
def intText (n : Int) : Text :=
  (if n < 0 then ['-'] else []) ++ Nat.toDigits 10 n.natAbs

mutual

/-- The value in literal form. -/
def literal : Value → Text
  | null => "None".toList
  | bool b => if b then "True".toList else "False".toList
  | int n => intText n
  | floating x => x.display
  | text s => s.quoted
  | list items => '[' :: literalItems items ++ [']']
  | tuple items =>
    '(' :: literalItems items ++ (if items.length = 1 then [','] else []) ++ [')']
  | table entries => '\x7b' :: literalEntries entries ++ ['\x7d']
  | object o => o.literal

/-- The elements of a sequence in literal form, separated by commas. -/
def literalItems : List Value → Text
  | [] => []
  | [v] => literal v
  | v :: vs => literal v ++ ',' :: ' ' :: literalItems vs

/-- The entries of a table in literal form, separated by commas. -/
def literalEntries : List (Text × Value) → Text
  | [] => []
  | [(k, v)] => k.quoted ++ ':' :: ' ' :: literal v
  | (k, v) :: es => k.quoted ++ ':' :: ' ' :: literal v ++ ',' :: ' ' :: literalEntries es

end

/-- The value in display form. -/
def display : Value → Text
  | text s => s
  | object o => o.display
  | v => v.literal

/-- The text that a value has of its own, not by being shown as a kind of data: a text, or an
object as it displays itself. -/
def ownText? : Value → Option Text
  | text s => some s
  | object o => some o.display
  | _ => none

end Value

end PeerTrust
