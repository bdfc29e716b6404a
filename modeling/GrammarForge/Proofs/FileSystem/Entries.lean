import GrammarForge.Proofs.FileSystem.Growth
import GrammarForge.Proofs.FileSystem.Reading

/-!
# Files in directories that exist

In a directory that exists a file can be made, and made again, under any name that an entry can have
and that no directory has.
-/

namespace GrammarForge.FileSystem

open GrammarForge.Path

variable {fs : FileSystem} {directory name path : String}

theorem checkPath_eq_ok (hnul : '\x00' ∉ path.toList) (hne : path ≠ "")
    (hsize : path.utf8ByteSize ≤ maxPathLength) : checkPath path = .ok () := by
  have htext : checkText path = .ok () := by simp [checkText, hnul, hne]
  rw [checkPath, htext]
  exact if_neg (Nat.not_lt.2 hsize)

theorem IsEntryName.isNormal (h : IsEntryName name) : IsNormal name :=
  ⟨h.component, h.named, h.noSlash, h.noNul⟩

theorem IsEntryName.ne_empty (h : IsEntryName name) : name ≠ "" := by
  rintro rfl
  cases h.component

theorem IsEntryName.ne_dot (h : IsEntryName name) : name ≠ "." := by
  rintro rfl
  cases h.component

theorem IsEntryName.parts_eq (h : IsEntryName name) : Path.parts name = [name] := by
  have hparts := @parts_intercalate [name] (by simp) (by simp [h.noSlash])
  rwa [String.intercalate_singleton] at hparts

theorem IsEntryName.isAbsolute_eq (h : IsEntryName name) : isAbsolute name = false := by
  have habsolute := @isAbsolute_intercalate_cons name [] h.noSlash
  rw [String.intercalate_singleton] at habsolute
  rw [habsolute]
  simp

theorem IsEntryName.checkPath_eq (h : IsEntryName name) : checkPath name = .ok () := by
  refine checkPath_eq_ok h.noNul h.ne_empty (h.short.trans ?_)
  decide

/-- To make a directory that exists changes nothing. -/
theorem makeDirectoryIfMissing_entry (h : IsEntryName directory)
    (hcurrent : fs.isDirectory fs.current = true)
    (hplace : fs.isDirectory (fs.current ++ [directory]) = true) :
    fs.makeDirectoryIfMissing directory = .ok fs := by
  have hstart : fs.start directory = fs.current := by simp [start, h.isAbsolute_eq]
  have hnode : (fs.node? (fs.current ++ [directory])).isSome = true := by
    rw [isDirectory_iff.1 hplace]
    rfl
  have hnew : fs.locateNew directory = .ok (fs.current, some directory) := by
    simp [locateNew, h.checkPath_eq, h.parts_eq, h.ne_empty, hstart, hcurrent, bind, Except.bind,
      pure, Except.pure]
  have hmake : fs.makeDirectory directory = .error .fileExists := by
    simp [makeDirectory, hnew, h.ne_dot, h.named, Nat.not_lt.2 h.short, hnode, bind, Except.bind]
  have hlocate : fs.locate directory = .ok (fs.current ++ [directory]) := by
    rw [locate_eq_ok, h.parts_eq, hstart]
    exact ⟨h.checkPath_eq, leads_cons.2 ⟨_,
      enter_name hcurrent h.component h.named h.short hnode, leads_nil.2 rfl⟩⟩
  simp [makeDirectoryIfMissing, hmake, isDirectoryAt, hlocate, hplace, SystemError.fileExists]

section File

variable (hdirectory : IsEntryName directory) (hname : IsEntryName name)

include hdirectory hname

theorem join_entry : Path.join directory name = directory ++ "/" ++ name := by
  have hlast : directory.toList.getLast? ≠ some '/' := fun h =>
    hdirectory.noSlash (List.mem_of_getLast? h)
  rw [Path.join, if_neg (by simp [hname.isAbsolute_eq]),
    if_neg (by simp [hdirectory.ne_empty, hlast])]

theorem join_entry_eq_intercalate :
    Path.join directory name = "/".intercalate [directory, name] := by
  rw [join_entry hdirectory hname, String.intercalate_cons_cons, String.intercalate_singleton]

theorem parts_entry : Path.parts (Path.join directory name) = [directory, name] := by
  rw [join_entry_eq_intercalate hdirectory hname]
  exact parts_intercalate (by simp) (by simp [hdirectory.noSlash, hname.noSlash])

theorem ancestors_entry :
    ancestors (Path.join directory name) = [Path.join directory name, directory] := by
  have hreverse : [directory, name].reverse = [name, directory] := rfl
  rw [ancestors, parts_entry hdirectory hname, hreverse, ancestorParts_cons hname.component,
    ancestorParts_cons hdirectory.component, join_entry_eq_intercalate hdirectory hname]
  simp [ancestorParts]

theorem start_entry : fs.start (Path.join directory name) = fs.current := by
  rw [start, isAbsolute_join hname.isAbsolute_eq, hdirectory.isAbsolute_eq]
  rfl

theorem placeOf_entry :
    fs.placeOf (Path.join directory name) = fs.current ++ [directory, name] := by
  rw [placeOf, parts_entry hdirectory hname, start_entry hdirectory hname]
  exact foldl_follow_normal _ (by simp [hdirectory.isNormal, hname.isNormal])

theorem checkPath_entry : checkPath (Path.join directory name) = .ok () := by
  have hslash : "/".utf8ByteSize = 1 := rfl
  rw [join_entry hdirectory hname]
  apply checkPath_eq_ok
  · simp [hdirectory.noNul, hname.noNul]
  · simp
  · have hdirectoryShort := hdirectory.short
    have hnameShort := hname.short
    rw [String.utf8ByteSize_append, String.utf8ByteSize_append, hslash]
    unfold maxNameLength at hdirectoryShort hnameShort
    unfold maxPathLength
    omega

/-- In a directory of the current one a file can be made. -/
theorem createFileAndParents_entry (hcurrent : fs.isDirectory fs.current = true)
    (hplace : fs.isDirectory (fs.current ++ [directory]) = true)
    (hfile : fs.isDirectory (fs.current ++ [directory, name]) = false) : ∃ files,
      fs.createFileAndParents (Path.join directory name) =
        (.ok (fs.current ++ [directory, name]), files) := by
  have hslash : (Path.join directory name).toList.getLast? ≠ some '/' := by
    have hchars : name.toList ≠ [] := mt String.toList_eq_nil_iff.1 hname.ne_empty
    rw [join_entry hdirectory hname, String.toList_append,
      List.getLast?_append_of_ne_nil _ hchars]
    exact fun h => hname.noSlash (List.mem_of_getLast? h)
  have henter : fs.enter fs.current directory = .ok (fs.current ++ [directory]) := by
    refine enter_name hcurrent hdirectory.component hdirectory.named hdirectory.short ?_
    rw [isDirectory_iff.1 hplace]
    rfl
  have hnew : fs.locateNew (Path.join directory name) =
      .ok (fs.current ++ [directory], some name) := by
    simp [locateNew, checkPath_entry hdirectory hname, parts_entry hdirectory hname,
      start_entry hdirectory hname, hname.ne_empty, henter, hplace, bind, Except.bind, pure,
      Except.pure]
  have hcreate : fs.createFile (Path.join directory name) =
      .ok (fs.current ++ [directory, name],
        fs.set (fs.current ++ [directory, name]) (.file [])) := by
    simp [createFile, hnew, hname.ne_dot, hname.named, hslash, Nat.not_lt.2 hname.short, hfile,
      bind, Except.bind, pure, Except.pure]
  rw [createFileAndParents_eq, ancestors_entry hdirectory hname, List.tail_cons, makeAncestors,
    makeDirectoryIfMissing_entry hdirectory hcurrent hplace]
  simp only [hcreate]
  exact ⟨_, rfl⟩

end File

end GrammarForge.FileSystem
