import ViewAdapters.Files.Operation

/-!
# Home directories

A path that starts with a tilde starts from a home directory. Known are one's
own home and that of the account which every system has.
-/

namespace ViewAdapters.Path

def homeMark : Char := '~'

/-- Whether a component stands for a home directory. -/
def isHome (part : String) : Bool := part.toList.head? == some homeMark

/-- The accounts whose home directories are known. -/
def accounts : List (String × Path) := [("root", ⟨separator, ["root"]⟩)]

/-- The home directory that a component stands for. -/
def homeOf? (home : Path) (part : String) : Option Path :=
  match part.toList with
  | [_] => some home
  | _ :: name => accounts.lookup (String.ofList name)
  | [] => none

/-- The path with the home directory in place of the tilde that it starts with. -/
def expandHome (home p : Path) : Except FileFault Path :=
  if p.isAbsolute then .ok p
  else
    match p.parts with
    | [] => .ok p
    | part :: rest =>
      if !isHome part then .ok p
      else
        match Files.textFault? (String.ofList part.toList.tail), homeOf? home part with
        | some fault, _ => .error fault
        | none, some directory => .ok (directory.join ⟨"", rest⟩)
        | none, none => .error .noHome

end ViewAdapters.Path
