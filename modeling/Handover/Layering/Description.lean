import Handover.Json.Basic
import Handover.Layering.Clause
import Handover.Layering.Tree

/-!
Trees described as values. A file is a list of statements, or a text for bytes that cannot be read;
a statement is an object told by its first known member. The parts of an import are put together as
source text, so a name that is no name makes the file one that cannot be read.
-/
namespace Handover.Layering

def texts? : List Json → Option (List String)
  | [] => some []
  | .string s :: rest => (texts? rest).map (s :: ·)
  | _ :: _ => none

def source? : Option Json → Option String
  | none | some .null => some ""
  | some (.string s) => some s
  | some _ => none

def Import.ofMembers? (ms : List (String × Json)) : Option Import :=
  match Table.get? "import" ms with
  | some (.array names) => (texts? names).map .modules
  | _ =>
    match source? (Table.get? "from" ms), Table.get? "level" ms, Table.get? "names" ms with
    | some source, some (.int dots), some (.array names) =>
      (texts? names).map fun names => .members source dots names
    | _, _, _ => none

def Import.ofJson? : Json → Option Import
  | .object ms => Import.ofMembers? ms
  | _ => none

mutual

def statementOf? : Json → Option Statement
  | .object ms =>
    match bodyIn? ms, Table.get? "blank" ms, Import.ofMembers? ms with
    | some body, _, _ => some (.block body)
    | none, some (.int n), _ => some (.gap n.toNat)
    | none, _, some i => (Import.ofLine? i.clause).map .line
    | none, _, none => if (Table.get? "pass" ms).isSome then some (.line []) else none
  | _ => none

def bodyIn? : List (String × Json) → Option (List Statement)
  | [] => none
  | ("body", .array items) :: _ => statementsOf? items
  | _ :: rest => bodyIn? rest

def statementsOf? : List Json → Option (List Statement)
  | [] => some []
  | j :: rest =>
    match statementOf? j, statementsOf? rest with
    | some s, some ss => some (s :: ss)
    | _, _ => none

end

def Content.ofJson : Json → Content
  | .array items =>
    match statementsOf? items with
    | some body => .statements body
    | none => .garbled
  | _ => .garbled

def Tree.ofJson : Json → Tree
  | .object ms => ms.foldl (fun t f => t.write (Path.ofText f.1).parts (.ofJson f.2)) []
  | _ => []

end Handover.Layering
