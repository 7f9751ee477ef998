import SlideDeck.Text.Basic

/-!
# Paths

A path is a text with names between slashes.  Slashes that follow each other count as one, and a
dot for a name counts only at the start of a relative path.

* `Path.names` are its names, `Path.isAbsolute` says whether it starts at the root.
* `Path.parent?` is the path without its last name, `Path.ancestors` the paths that this gives in
  turn.
* `Path.directory` is the directory that a file with the path lies in, as a path.
-/

set_option autoImplicit false

namespace SlideDeck.Path

/-- The name of a directory in itself. -/
def here : Text := ['.']

/-- The name of the directory above. -/
def up : Text := ['.', '.']

/-- The names in a path. -/
def names (p : Text) : List Text := (p.splitOn '/').filter fun n => !n.isEmpty

/-- Whether a path starts at the root. -/
def isAbsolute (p : Text) : Bool := p.head? == some '/'

/-- Whether a path ends with a slash, which asks for a directory. -/
def endsWithSlash (p : Text) : Bool := p.getLast? == some '/'

/-! ## Parents -/

/-- How a path starts, and the rest: a slash at the root, or a dot for the working directory. -/
def cutStart : Text → Text × Text
  | '/' :: p => (['/'], p)
  | ['.'] => (here, [])
  | '.' :: '/' :: p => (here, '/' :: p)
  | p => ([], p)

/-- A path, written backwards, up to the last name in it that is not a dot. -/
def dropIdle : Text → Text
  | [] => []
  | '/' :: p => dropIdle p
  | ['.'] => []
  | '.' :: '/' :: p => dropIdle p
  | p => p

/-- A path without its last name, if there is a name. -/
def parent? (p : Text) : Option Text :=
  match dropIdle (cutStart p).2.reverse with
  | [] => if (cutStart p).1 = here then some [] else none
  | q => some ((cutStart p).1 ++ (dropIdle (q.dropWhile (· != '/'))).reverse)

/-- A path, its parent, the parent of that, and so on up to the given number. -/
def ancestorsUpTo : Nat → Text → List Text
  | 0, _ => []
  | n + 1, p =>
    match parent? p with
    | none => [p]
    | some q => p :: ancestorsUpTo n q

/-- A path, its parent, the parent of that, and so on; a parent is shorter than the path. -/
def ancestors (p : Text) : List Text := ancestorsUpTo (p.length + 1) p

/-- The paths among the ancestors that name a directory which may have to be made: neither the
root nor the empty path does. -/
def toMake (p : Text) : List Text :=
  (ancestors p).takeWhile fun q => !q.isEmpty && (parent? q).isSome

/-- The directory that a file lies in. -/
def directory (p : Text) : Text :=
  match parent? p with
  | none | some [] => here
  | some q => q

end SlideDeck.Path
