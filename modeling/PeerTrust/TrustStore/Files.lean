import PeerTrust.TrustStore.Pem

/-!
Files with certificates, and looking them up by path.

A path is looked up from a working directory, component by component.  Whatever a component is
looked up in must be a directory, so a path fails at its first bad component and the way it fails
tells which kind it was.  Outside of the working directory there are no files.
-/

namespace PeerTrust

/-- Why a path gives no certificates. -/
inductive ReadFault where
  | notFound
  | isDirectory
  | notDirectory
  | nameTooLong
  /-- The path holds a character that no path can hold. -/
  | illegalPath
  /-- The file is no file of certificates. -/
  | malformed
deriving DecidableEq, Repr

/-- A failure to read: its kind, and what the system or the parser says about it. -/
structure ReadFailure where
  fault : ReadFault
  detail : Text
deriving DecidableEq, Repr

/-- What a path can lead to. -/
inductive FileEntry (C : Type) where
  | directory
  | file (content : Content C)

/-- The certificates of a file, in their order. -/
def FileEntry.certificates {C : Type} : FileEntry C → Except ReadFault (List C)
  | directory => .error .isDirectory
  | file content =>
    match Pem.certificates? content with
    | some certificates => .ok certificates
    | none => .error .malformed

/-- Files below a working directory, by the components of their paths.  The directories on the way
to a file are there with it. -/
abbrev FileTree (C : Type) := List (List Text × FileEntry C)

/-! ## Paths -/

/-- The components of a path; empty ones and those that stay in place do not count. -/
def pathComponents (path : Text) : List Text :=
  (path.splitOn '/').filter fun c => !c.isEmpty && c != ['.']

/-- The slashes that an absolute path starts with: one, unless there are exactly two. -/
def pathRoot (path : Text) : Text :=
  match (path.takeWhile (· == '/')).length with
  | 0 => []
  | 2 => ['/', '/']
  | _ => ['/']

/-- A path without the parts of it that do not count. -/
def plainPath (path : Text) : Text := pathRoot path ++ ['/'].intercalate (pathComponents path)

/-- The number of bytes in which a name is stored. -/
def storedSize (name : Text) : Nat := (name.map Char.utf8Size).foldl (· + ·) 0

namespace FileTree

variable {C : Type}

/-- What the components lead to. -/
def entry? (tree : FileTree C) (components : List Text) : Option (FileEntry C) :=
  match tree.find? (·.1 == components) with
  | some (_, entry) => some entry
  | none =>
    if components.isEmpty || tree.any (components.isPrefixOf ·.1) then some .directory else none

/-- The lookup of the remaining components from where those in `here` have led. -/
def lookup (tree : FileTree C) (here : List Text) : (remaining : List Text) →
    Except ReadFault (FileEntry C)
  | [] =>
    match tree.entry? here with
    | some entry => .ok entry
    | none => .error .notFound
  | c :: cs =>
    match tree.entry? here with
    | none => .error .notFound
    | some (.file _) => .error .notDirectory
    | some .directory =>
      -- A step upward from the working directory leads to where there are no files.
      if c = ['.', '.'] then
        if here.isEmpty then lookup [] [] cs else lookup tree here.dropLast cs
      else if 255 < storedSize c then .error .nameTooLong
      else lookup tree (here ++ [c]) cs

/-- The files that a path can lead to: an absolute path leads outside of the working directory. -/
def visibleFrom (tree : FileTree C) (path : Text) : FileTree C :=
  if path.head? = some '/' then [] else tree

/-- The certificates at a path.  A path takes less than 4096 bytes. -/
def read (tree : FileTree C) (path : Text) : Except ReadFault (List C) := do
  if path.contains '\x00' then .error .illegalPath
  else if 4096 ≤ storedSize (plainPath path) then .error .nameTooLong
  else (← (tree.visibleFrom path).lookup [] (pathComponents path)).certificates

/-- The reader of these files, with what the system says about a fault at a path. -/
def reader (tree : FileTree C) (explain : Text → ReadFault → Text) (path : Text) :
    Except ReadFailure (List C) :=
  (tree.read path).mapError fun fault => ⟨fault, explain path fault⟩

end FileTree

end PeerTrust
