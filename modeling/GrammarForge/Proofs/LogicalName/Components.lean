import GrammarForge.Proofs.FileSystem.Parents
import GrammarForge.Proofs.LogicalName.RoundTrip

/-!
# Relative paths of names

The path of a name is made of parts that each name an entry of a directory. Followed from any
directory it leads downwards, as many steps as it has parts.
-/

namespace GrammarForge

namespace Path

/-- A part that can only name an entry of the directory in which it is looked up. -/
structure IsNormal (part : String) : Prop where
  component : isComponent part = true
  named : part ≠ ".."
  noSlash : '/' ∉ part.toList
  noNul : '\x00' ∉ part.toList

theorem IsNormal.of_chars {part : String} (hne : part ≠ "") (hdot : part ≠ ".")
    (hdots : part ≠ "..") (hchars : ∀ c ∈ part.toList, Text.isIdentRest c = true ∨ c = '.') :
    IsNormal part := by
  refine ⟨by simp [isComponent, hne, hdot], hdots, ?_, ?_⟩
  · intro hslash
    exact absurd (hchars _ hslash) (by decide)
  · intro hnul
    exact absurd (hchars _ hnul) (by decide)

end Path

open GrammarForge.Path

theorem Segment.isNormal (s : Segment) : IsNormal s.text := by
  have hdot : '.' ∉ s.text.toList := s.notMem (by decide)
  apply IsNormal.of_chars s.ne_empty
  · intro h
    simp [h] at hdot
  · intro h
    simp [h] at hdot
  · intro c hc
    exact .inl (s.allIdent c hc)

namespace LogicalName

/-- The name of the file of a unit. -/
theorem isNormal_fileName (n : LogicalName) :
    IsNormal (Text.snakeCase n.simple.text ++ ".rs") := by
  have hlast : (Text.snakeCase n.simple.text ++ ".rs").toList.getLast? = some 's' := by
    rw [String.toList_append, List.getLast?_append_of_ne_nil _ (by decide)]
    rfl
  have hne : ∀ other : String, other.toList.getLast? ≠ some 's' →
      Text.snakeCase n.simple.text ++ ".rs" ≠ other := by
    rintro other hother rfl
    exact hother hlast
  apply IsNormal.of_chars (hne _ (by decide)) (hne _ (by decide)) (hne _ (by decide))
  intro c hc
  rw [String.toList_append, List.mem_append] at hc
  rcases hc with hc | hc
  · rw [Text.snakeCase, String.toList_ofList] at hc
    exact .inl (Text.allIdent_snakeChars n.simple.allIdent none c hc)
  · obtain rfl | rfl | rfl : c = '.' ∨ c = 'r' ∨ c = 's' := by simpa using hc
    · exact .inr rfl
    · exact .inl (by decide)
    · exact .inl (by decide)

theorem fileComponents_ne_nil (n : LogicalName) : n.fileComponents ≠ [] := by simp [fileComponents]

theorem isNormal_fileComponents (n : LogicalName) : ∀ part ∈ n.fileComponents, IsNormal part := by
  intro part hpart
  rcases List.mem_append.1 hpart with hmodule | hfile
  · obtain ⟨s, -, rfl⟩ := List.mem_map.1 hmodule
    exact s.isNormal
  · rw [List.mem_singleton.1 hfile]
    exact n.isNormal_fileName

theorem parts_relativePath (n : LogicalName) : Path.parts n.relativePath = n.fileComponents :=
  parts_intercalate n.fileComponents_ne_nil fun part hpart =>
    (n.isNormal_fileComponents part hpart).noSlash

theorem isAbsolute_relativePath (n : LogicalName) : isAbsolute n.relativePath = false := by
  obtain ⟨first, rest, heq⟩ := List.exists_cons_of_ne_nil n.fileComponents_ne_nil
  have hfirst : IsNormal first := n.isNormal_fileComponents first (by simp [heq])
  have hne : first ≠ "" := by
    rintro rfl
    cases hfirst.component
  rw [relativePath, heq, isAbsolute_intercalate_cons hfirst.noSlash]
  simp [hne]

theorem relativePath_eq_iff {a b : LogicalName} :
    a.relativePath = b.relativePath ↔ a.fileComponents = b.fileComponents := by
  constructor
  · intro h
    rw [← parts_relativePath, h, parts_relativePath]
  · intro h
    rw [relativePath, h, relativePath]

end LogicalName

end GrammarForge
