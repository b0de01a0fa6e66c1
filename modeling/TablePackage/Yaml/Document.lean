import TablePackage.Yaml.Construction
import TablePackage.Yaml.Stream

/-!
# Documents

The value that a YAML document writes.
-/

namespace TablePackage.Yaml

/-- How many levels of maps are looked into one by one by those who read a document: what is in
    them is shown by itself. -/
def outerLevels : Nat := 2

/-- The value of the only document in a text, or null if there is none. The text may end before
    the document does, for the reason `stop`. -/
def read (t : Text) (stop : Option Fault := none) : Except Fault Value := do
  let (tokens, stop) := Token.ofText t stop
  match ← Node.ofTokens tokens stop with
  | none => return .null
  | some (root, nodes) =>
    let (part, collections) ← Construction.construct nodes root
    let unknown : Construction.Known := Array.replicate nodes.size none
    return (Construction.valueOf collections outerLevels part |>.run unknown).1

/-- The value of the only document in the bytes of a file. -/
def readBytes (bytes : Bytes) : Except Fault Value :=
  let (t, stop) := Stream.textOf bytes
  read t stop

end TablePackage.Yaml
