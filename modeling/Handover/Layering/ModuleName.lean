/-!
Dotted module names. A name and its list of components determine each other as long as no component
holds a dot.
-/
namespace Handover.Layering

def components (name : String) : List String :=
  (name.toList.splitOn '.').map String.ofList

def dotted (parts : List String) : String := ".".intercalate parts

theorem splitJoined {c : Char} {separator : String} (single : separator.toList = [c])
    {parts : List String} (plain : ∀ p ∈ parts, c ∉ p.toList) (nonempty : parts ≠ []) :
    ((separator.intercalate parts).toList.splitOn c).map String.ofList = parts := by
  have h : ∀ l ∈ parts.map String.toList, c ∉ l := by simpa using plain
  have hs := List.splitOn_intercalate c h (by simpa using nonempty)
  rw [String.toList_intercalate, single, hs]
  simp

theorem componentsDotted {parts : List String} (plain : ∀ p ∈ parts, '.' ∉ p.toList)
    (nonempty : parts ≠ []) : components (dotted parts) = parts :=
  splitJoined rfl plain nonempty

theorem dottedComponents (name : String) : dotted (components name) = name := by
  apply String.toList_inj.1
  simp only [components, dotted, String.toList_intercalate, List.map_map]
  rw [show ".".toList = ['.'] from rfl]
  simp [Function.comp_def]

end Handover.Layering
