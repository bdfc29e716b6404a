import GrammarForge.Proofs.FileSystem.Walks

/-!
# Reading files

A text that was written to a file is read from it again. The file systems here have one grammar, in
a directory below the current one.
-/

namespace GrammarForge

theorem decodeText_encodeText (text : String) : decodeText (encodeText text) = some text := by
  change String.fromUTF8? text.toUTF8 = some text
  simp only [String.fromUTF8?, String.toUTF8_eq_toByteArray, dif_pos text.isValidUTF8]
  rfl

namespace FileSystem

open GrammarForge.Path

/-- A name that an entry of a directory can have. -/
structure IsEntryName (name : String) : Prop where
  component : isComponent name = true
  named : name ≠ ".."
  noSlash : '/' ∉ name.toList
  noNul : '\x00' ∉ name.toList
  short : name.utf8ByteSize ≤ maxNameLength

theorem IsEntryName.of_size {name : String} (hmin : 2 < name.utf8ByteSize)
    (hmax : name.utf8ByteSize ≤ maxNameLength) (hslash : '/' ∉ name.toList)
    (hnul : '\x00' ∉ name.toList) : IsEntryName name := by
  have hne : ∀ other : String, other.utf8ByteSize ≤ 2 → name ≠ other := by
    rintro other hother rfl
    omega
  have hempty : name ≠ "" := hne "" (by decide)
  have hdot : name ≠ "." := hne "." (by decide)
  exact ⟨by simp [isComponent, hempty, hdot], hne ".." (by decide), hslash, hnul, hmax⟩

theorem isEntryName_d : IsEntryName "d" :=
  ⟨by decide, by decide, by decide, by decide, by decide⟩

/-- The directories on the way to a location, which is one itself. -/
def directoriesTo (place : Location) : List Location :=
  (List.range place.length).map fun depth => place.take (depth + 1)

theorem length_of_mem_directoriesTo {place p : Location} (h : p ∈ directoriesTo place) :
    0 < p.length ∧ p.length ≤ place.length := by
  obtain ⟨depth, hdepth, rfl⟩ := List.mem_map.1 h
  have hlt := List.mem_range.1 hdepth
  rw [List.length_take]
  omega

theorem nodup_directoriesTo (place : Location) : (directoriesTo place).Nodup := by
  refine List.Nodup.map_on ?_ List.nodup_range
  intro i hi j hj h
  have hlength := congrArg List.length h
  rw [List.mem_range] at hi hj
  simp only [List.length_take] at hlength
  omega

theorem mem_directoriesTo {place : Location} (h : place ≠ []) : place ∈ directoriesTo place := by
  have hlength := List.length_pos_iff.2 h
  refine List.mem_map.2 ⟨place.length - 1, List.mem_range.2 (by omega), ?_⟩
  rw [Nat.sub_add_cancel hlength, List.take_length]

theorem lookup_directories {places : List Location} {place : Location} (h : place ∈ places) :
    (places.map fun p => (p, Node.directory)).lookup place = some .directory := by
  induction places with
  | nil => cases h
  | cons first rest ih =>
      rw [List.map_cons, List.lookup_cons]
      cases hfirst : place == first with
      | true => rfl
      | false => exact ih ((List.mem_cons.1 h).resolve_left (by simpa using hfirst))

/-- The current directory is `place`, with its ancestors, and it has a directory `name` with the
grammar file in it. -/
def withGrammar (place : Location) (name text : String) : FileSystem where
  current := place
  nodes := (place ++ [name], .directory) :: (place ++ [name, "g.bnf"], .file (encodeText text)) ::
    (directoriesTo place).map fun p => (p, .directory)
  nodup := by
    have hlong : ∀ p ∈ directoriesTo place, p.length ≤ place.length := fun _ hp =>
      (length_of_mem_directoriesTo hp).2
    have hkeys : ((directoriesTo place).map fun p => (p, Node.directory)).map (·.1) =
        directoriesTo place := by
      rw [List.map_map]
      exact List.map_id _
    simp only [List.map_cons, hkeys, List.nodup_cons, List.mem_cons, not_or]
    refine ⟨⟨by simp, by simp, fun h => ?_⟩, ⟨by simp, fun h => ?_⟩, fun h => ?_,
      nodup_directoriesTo place⟩
    · exact absurd (length_of_mem_directoriesTo h).1 (by simp)
    · exact absurd (hlong _ h) (by simp)
    · exact absurd (hlong _ h) (by simp)

/-- The path of the grammar, relative to the current directory. -/
def grammarPath (name : String) : String := name ++ "/g.bnf"

theorem grammarPath_eq (name : String) : grammarPath name = "/".intercalate [name, "g.bnf"] := by
  rw [String.intercalate_cons_cons, String.intercalate_singleton, String.append_assoc]
  rfl

section WithGrammar

variable {place : Location} {name text : String}

theorem parts_grammarPath (h : IsEntryName name) :
    Path.parts (grammarPath name) = [name] ++ ["g.bnf"] := by
  rw [grammarPath_eq]
  apply parts_intercalate (by simp)
  simp [h.noSlash]

theorem start_grammarPath (h : IsEntryName name) :
    (withGrammar place name text).start (grammarPath name) = place := by
  have hne : name ≠ "" := by
    rintro rfl
    cases h.component
  have hrelative : isAbsolute (grammarPath name) = false := by
    rw [grammarPath_eq, isAbsolute_intercalate_cons h.noSlash]
    simp [hne]
  simp [start, hrelative, withGrammar]

theorem isDirectory_withGrammar : (withGrammar place name text).isDirectory place = true := by
  by_cases h : place = []
  · simp [isDirectory, node?, h]
  · have hdirectory : (place == place ++ [name]) = false := by simp
    have hfile : (place == place ++ [name, "g.bnf"]) = false := by simp
    simp [isDirectory, node?, h, withGrammar, List.lookup_cons, hdirectory, hfile,
      lookup_directories (mem_directoriesTo h)]

theorem node?_directory :
    (withGrammar place name text).node? (place ++ [name]) = some .directory := by
  simp [node?, withGrammar]

theorem node?_grammar : (withGrammar place name text).node? (place ++ [name, "g.bnf"]) =
    some (.file (encodeText text)) := by
  have hdirectory : (place ++ [name, "g.bnf"] == place ++ [name]) = false := by simp
  simp [node?, withGrammar, List.lookup_cons, hdirectory]

theorem leads_grammar (h : IsEntryName name) :
    (withGrammar place name text).Leads place [name, "g.bnf"] (place ++ [name, "g.bnf"]) := by
  have hdirectory : (withGrammar place name text).isDirectory (place ++ [name]) = true := by
    simp [isDirectory, node?_directory]
  have hfirst : (withGrammar place name text).enter place name = .ok (place ++ [name]) :=
    enter_name isDirectory_withGrammar h.component h.named h.short (by simp [node?_directory])
  have hsecond : (withGrammar place name text).enter (place ++ [name]) "g.bnf" =
      .ok (place ++ [name, "g.bnf"]) := by
    rw [enter_name hdirectory (by decide) (by decide) (by decide) (by simp [node?_grammar])]
    simp
  exact leads_cons.2 ⟨_, hfirst, leads_cons.2 ⟨_, hsecond, leads_nil.2 rfl⟩⟩

theorem checkPath_grammarPath (h : IsEntryName name) : checkPath (grammarPath name) = .ok () := by
  have hnul : '\x00' ∉ (grammarPath name).toList := by simp [grammarPath, h.noNul]
  have hne : grammarPath name ≠ "" := by simp [grammarPath]
  have htext : checkText (grammarPath name) = .ok () := by simp [checkText, hnul, hne]
  have hlength : (grammarPath name).utf8ByteSize ≤ maxPathLength := by
    have hfile : "/g.bnf".utf8ByteSize = 6 := rfl
    have hshort := h.short
    rw [grammarPath, String.utf8ByteSize_append, hfile]
    unfold maxNameLength at hshort
    unfold maxPathLength
    omega
  rw [checkPath, htext]
  exact if_neg (Nat.not_lt.2 hlength)

/-- The text of the grammar is read from its file. -/
theorem readText_grammarPath (h : IsEntryName name) :
    (withGrammar place name text).readText (grammarPath name) = .ok text := by
  have hlocate : (withGrammar place name text).locate (grammarPath name) =
      .ok (place ++ [name, "g.bnf"]) := by
    rw [locate_eq_ok, start_grammarPath h, parts_grammarPath h]
    exact ⟨checkPath_grammarPath h, leads_grammar h⟩
  have hbytes : (withGrammar place name text).readBytes (grammarPath name) =
      .ok (encodeText text) := readBytes_eq_ok.2 ⟨_, hlocate, node?_grammar⟩
  rw [readText, hbytes]
  simp [decodeText_encodeText, bind, Except.bind, pure, Except.pure]

theorem extension_grammarPath (h : IsEntryName name) : extension (grammarPath name) = "bnf" := by
  have hparts : ancestorParts ["g.bnf", name] = ["g.bnf", name] :: ancestorParts [name] :=
    if_pos (by decide)
  have hreverse : ([name] ++ ["g.bnf"]).reverse = ["g.bnf", name] := rfl
  have hfile : fileName? (grammarPath name) = some "g.bnf" := by
    rw [fileName?, parts_grammarPath h, hreverse, hparts]
    rfl
  rw [extension, hfile]
  decide

/-- The way to the grammar is short if the directory has a short absolute path. -/
theorem hasShortWay_grammarPath (h : IsEntryName name) :
    (withGrammar place name text).hasShortWay (Attempt.directoryOf (grammarPath name)) =
      isShort (place ++ [name]) := by
  have hstart : (withGrammar place name text).start (Attempt.directoryOf (grammarPath name)) =
      place := by
    rw [start, Attempt.isAbsolute_directoryOf (parts_grammarPath h) (by decide)]
    exact start_grammarPath h
  rw [hasShortWay, hstart, Attempt.components_directoryOf (parts_grammarPath h) (by decide),
    List.filter_cons_of_pos h.component, List.filter_nil, entered, if_neg h.named]
  simp [entered]

end WithGrammar

end FileSystem

end GrammarForge
