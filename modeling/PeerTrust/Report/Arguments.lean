import PeerTrust.Report

/-!
Errors that callers make.

A caller makes an error of a category and positional arguments.  Categories that carry facts of
their own say which arguments they take (`Category.signature?`), and an error whose arguments do
not fit is an error of its own.  All other categories take any arguments as their message.
-/

namespace PeerTrust

/-- The positional arguments that an error takes: the names of those that must be there, and how
many more there can be. -/
structure Signature where
  required : List Text
  optional : Nat

/-- The arguments of the errors that carry facts of their own. -/
def Category.signature? : Category → Option Signature
  | malformedHint => some ⟨["endpoint_hint".toList], 1⟩
  | hostnameMismatch => some ⟨["host".toList], 2⟩
  | chainValidation => some ⟨["host".toList], 0⟩
  | unsupportedParameter => some ⟨["parameter".toList, "values".toList], 1⟩
  | _ => none

/-- Why arguments do not fit. -/
inductive ArgumentFault where
  /-- Required arguments are missing. -/
  | missing (category : Category) (names : List Text)
  /-- There are more arguments than the error takes. -/
  | tooMany (category : Category) (signature : Signature) (given : Nat)
  /-- A single value stands where a sequence is wanted. -/
  | notIterable (fault : Value.NotIterable)
  /-- A single value stands where a sequence of texts is wanted. -/
  | notJoinable
  /-- A value of this kind is looked up by, and no value of the kind can be. -/
  | notKey (kind : Value.Kind)
  /-- An element of a sequence of texts, at this place, is of another kind. -/
  | notText (place : Nat) (kind : Value.Kind)

namespace ArgumentFault

/-- Names in quotes, the last one set off by a conjunction. -/
def namesText (names : List Text) : Text :=
  [' ', 'a', 'n', 'd', ' '].intercalate (names.map Text.quoted)

/-- What is said about arguments that do not fit.  The error itself counts as one of them. -/
def message : ArgumentFault → Text
  | missing category names =>
    category.name ++ ".__init__() missing ".toList ++ Nat.toDigits 10 names.length ++
      " required positional argument".toList ++ (if names.length = 1 then [] else ['s']) ++
      ':' :: ' ' :: namesText names
  | tooMany category signature given =>
    let least := signature.required.length + 1
    category.name ++ ".__init__() takes ".toList ++
      (if signature.optional = 0 then [] else "from ".toList ++ Nat.toDigits 10 least ++
        " to ".toList) ++
      Nat.toDigits 10 (least + signature.optional) ++ " positional arguments but ".toList ++
      Nat.toDigits 10 (given + 1) ++ " were given".toList
  | notIterable fault => fault.message
  | notJoinable => "can only join an iterable".toList
  | notKey kind => "unhashable type: '".toList ++ kind.name ++ ['\'']
  | notText place kind =>
    "sequence item ".toList ++ Nat.toDigits 10 place ++ ": expected str instance, ".toList ++
      kind.name ++ " found".toList

/-- The fault as callers see it. -/
def report (fault : ArgumentFault) : Report := .plain .type fault.message

end ArgumentFault

/-- The elements of a sequence of texts, from a place on. -/
def textsFrom (place : Nat) : List Value → Except ArgumentFault (List Text)
  | [] => .ok []
  | .text s :: vs => (textsFrom (place + 1) vs).map (s :: ·)
  | v :: _ => .error (.notText place v.kind)

/-- The texts in a sequence of texts. -/
def textsOf (v : Value) : Except ArgumentFault (List Text) :=
  match v.elements with
  | .error fault => .error (.notIterable fault)
  | .ok vs => textsFrom 0 vs

/-- The message of an error that takes any arguments. -/
def messageOf : List Value → Text
  | [] => []
  | [v] => v.display
  | vs => (Value.tuple vs).display

namespace Category

/-- There are as many arguments as an error of the category takes. -/
def checkArguments (c : Category) (args : List Value) : Except ArgumentFault Unit :=
  match c.signature? with
  | none => .ok ()
  | some signature =>
    if signature.required.length + signature.optional < args.length then
      .error (.tooMany c signature args.length)
    else
      match signature.required.drop args.length with
      | [] => .ok ()
      | names => .error (.missing c names)

end Category

/-- The error of a category that is made of these arguments. -/
def Report.ofArguments (c : Category) (args : List Value) : Except ArgumentFault Report := do
  let arg (i : Nat) := args.getD i .null
  c.checkArguments args
  match c with
  | .malformedHint => return .malformedHint (arg 0) (arg 1)
  | .hostnameMismatch => return .hostnameMismatch (arg 0) (arg 1) (arg 2)
  | .chainValidation => return .chainValidation (arg 0) none
  | .unsupportedParameter => return .unsupportedParameter (arg 0) (← textsOf (arg 1)) (arg 2)
  | c => return .plain c (some (messageOf args))

end PeerTrust
