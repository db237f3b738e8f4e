import Mathlib.Tactic.SplitIfs
import Toolpath.Directory

/-!
# Files that are written

Writing under a path puts content into one file of the directory.  This module
proves that the path then leads to that file, so that what has been written is
what is read, and that every other file is as it was.

Reading and writing do not follow a path in the same way: after a slash at its
end only reading looks at the name before it.  The two are brought together by
what the parts of a path can lead to.  Only the last part can name a file, and
it is the only one for which the files of the directory matter.
-/

namespace Toolpath

namespace Directory

/-! ## Content by name -/

/-- After a file is written it has the new content, and every other file has
the content it had. -/
theorem content?_replaceFile
    (directory : Directory)
    (name other : String)
    (content : ByteArray) :
    (Directory.mk (replaceFile name content directory.files)).content?
        other =
      if name = other then some content else directory.content? other :=
  find?_replaceFile name other content directory.files

theorem writeBytes_eq_ok_iff
    {directory changed : Directory}
    {path : String}
    {content : ByteArray} :
    directory.writeBytes path content = .ok changed ↔
      ∃ name, directory.nameToWrite path = .ok name ∧
        changed = ⟨replaceFile name content directory.files⟩ := by
  rw [writeBytes]
  cases directory.nameToWrite path with
  | ok name => simp [eq_comm]
  | error cause => simp

/-! ## Where paths lead -/

/-- A part of a path leads on to a place that does not depend on the files, or
it names a file: one that is there, or one that could be. -/
theorem step_eq_ok
    {directory : Directory}
    {place next : Place}
    {part : List Char}
    (leads : directory.step place part = .ok next) :
    ((next = .here ∨ next = .outside) ∧
        ∀ other : Directory, other.step place part = .ok next) ∨
      ∃ name, (next = .file name ∨ next = .vacant name) ∧
        ∀ other : Directory, (other.content? name).isSome = true →
          other.step place part = .ok (.file name) := by
  cases place with
  | file name => cases leads
  | vacant name => cases leads
  | outside =>
      -- Outside nothing is known of names, so that only dots lead on.
      left
      simp only [step] at leads ⊢
      split_ifs at leads ⊢ with stays ascends long
      all_goals simp_all
  | here =>
      simp only [step] at leads ⊢
      split_ifs at leads with stays ascends long found
      case pos =>
        cases leads
        exact Or.inl ⟨Or.inl rfl, fun other => if_pos stays⟩
      case pos =>
        cases leads
        exact Or.inl ⟨Or.inr rfl, fun other => by simp [stays, ascends]⟩
      all_goals
        cases leads
        right
        refine ⟨String.ofList part, by simp, fun other present => ?_⟩
        simp [stays, ascends, long, present]

/-- No part leads on from a file, or from where one could be. -/
theorem foldlM_step_of_file
    {directory : Directory}
    {place : Place}
    {name : String}
    (ends : place = .file name ∨ place = .vacant name)
    {parts : List (List Char)}
    {last : Place}
    (leads : parts.foldlM directory.step place = .ok last) :
    parts = [] := by
  cases parts with
  | nil => rfl
  | cons part parts =>
      rcases ends with rfl | rfl <;> cases leads

/-- Parts that lead to a name lead to its file wherever there is one. -/
theorem foldlM_step_of_named
    {directory other : Directory}
    {name : String}
    (present : (other.content? name).isSome = true)
    {parts : List (List Char)}
    {place last : Place}
    (open_place : place = .here ∨ place = .outside)
    (leads : parts.foldlM directory.step place = .ok last)
    (named : last = .file name ∨ last = .vacant name) :
    parts.foldlM other.step place = .ok (.file name) := by
  induction parts generalizing place with
  | nil =>
      cases leads
      rcases open_place with rfl | rfl <;> simp at named
  | cons part parts hypothesis =>
      rw [List.foldlM_cons] at leads ⊢
      cases first : directory.step place part with
      | error cause =>
          rw [first] at leads
          cases leads
      | ok next =>
          rw [first] at leads
          rcases step_eq_ok first with
            ⟨goes_on, same⟩ | ⟨found, ends, reaches⟩
          · rw [same other]
            exact hypothesis goes_on leads
          · have finished : parts = [] := foldlM_step_of_file ends leads
            subst finished
            cases leads
            have same_name : found = name := by
              rcases ends with rfl | rfl <;> simpa using named
            subst same_name
            rw [reaches other present]
            rfl

/-- A path to a name that is written does not end in a slash. -/
theorem partsToWrite_eq_pathParts
    {directory : Directory}
    {path name : String}
    {place last : Place}
    (leads :
      (partsToWrite path).foldlM directory.step place = .ok last)
    (named : last = .file name ∨ last = .vacant name) :
    partsToWrite path = pathParts path := by
  simp only [partsToWrite] at leads ⊢
  split_ifs at leads ⊢ with slash
  · -- The part that stands for the slash stays where it is, in a directory.
    rw [List.foldlM_append] at leads
    generalize List.foldlM directory.step place _ = before at leads
    cases before with
    | error cause => cases leads
    | ok before =>
        cases before <;> cases leads <;> simp at named
  · rfl

theorem startOfPath_eq (path : String) :
    startOfPath path = .here ∨ startOfPath path = .outside := by
  rw [startOfPath]
  split_ifs
  · exact Or.inr rfl
  · exact Or.inl rfl

/-- A path that leads to a name that can be written leads, once the file is
there, to the file. -/
theorem follow_of_nameToWrite
    {directory other : Directory}
    {path name : String}
    (named : directory.nameToWrite path = .ok name)
    (present : (other.content? name).isSome = true) :
    other.follow path (partsToWrite path) = .ok (.file name) ∧
      partsToWrite path = pathParts path := by
  rw [nameToWrite] at named
  have leads :
      ∃ last, directory.follow path (partsToWrite path) = .ok last ∧
        (last = .file name ∨ last = .vacant name) := by
    split at named
    next found outcome =>
      cases named
      exact ⟨_, outcome, Or.inl rfl⟩
    next found outcome =>
      cases named
      exact ⟨_, outcome, Or.inr rfl⟩
    next => cases named
    next => cases named
  obtain ⟨last, follows, ends⟩ := leads
  rw [follow] at follows
  split at follows
  next => cases follows
  next sound =>
    refine ⟨?_, partsToWrite_eq_pathParts follows ends⟩
    rw [follow, sound]
    exact foldlM_step_of_named present (startOfPath_eq path) follows ends

theorem read_of_nameToWrite
    {directory other : Directory}
    {path name : String}
    {content : ByteArray}
    (named : directory.nameToWrite path = .ok name)
    (present : other.content? name = some content) :
    other.read path = .ok content := by
  obtain ⟨follows, parts⟩ :=
    follow_of_nameToWrite named (by rw [present, Option.isSome_some])
  rw [parts] at follows
  simp [read, follows, present]

/-- What has been written under a path is read under it. -/
theorem read_of_writeBytes
    {directory changed : Directory}
    {path : String}
    {content : ByteArray}
    (written : directory.writeBytes path content = .ok changed) :
    changed.read path = .ok content := by
  obtain ⟨name, named, rfl⟩ := writeBytes_eq_ok_iff.mp written
  apply read_of_nameToWrite named
  rw [content?_replaceFile, if_pos rfl]

/-- A file that is replaced twice is as it has been replaced last. -/
theorem replaceFile_replaceFile
    (name : String)
    (content : ByteArray)
    (files : List (String × ByteArray)) :
    replaceFile name content (replaceFile name content files) =
      replaceFile name content files := by
  induction files with
  | nil => simp [replaceFile]
  | cons file files hypothesis =>
      by_cases same : file.1 = name
      · simp [replaceFile, same]
      · simp [replaceFile, same, hypothesis]

/-- Writing the same under the same path again changes nothing. -/
theorem writeBytes_of_writeBytes
    {directory changed : Directory}
    {path : String}
    {content : ByteArray}
    (written : directory.writeBytes path content = .ok changed) :
    changed.writeBytes path content = .ok changed := by
  obtain ⟨name, named, rfl⟩ := writeBytes_eq_ok_iff.mp written
  refine writeBytes_eq_ok_iff.mpr ⟨name, ?_, ?_⟩
  · have follows := (@follow_of_nameToWrite directory
      ⟨replaceFile name content directory.files⟩ path name named (by
        rw [content?_replaceFile, if_pos rfl, Option.isSome_some])).1
    rw [nameToWrite, follows]
  · rw [replaceFile_replaceFile]

/-- A text that has been written under a path is read under it. -/
theorem text_of_writeText
    {directory changed : Directory}
    {path text : String}
    (written : directory.writeText path text = .ok changed) :
    changed.source.text path = .ok text := by
  have decodes : String.fromUTF8? text.toUTF8 = some text := by
    rw [String.fromUTF8?, String.toUTF8_eq_toByteArray,
      dif_pos text.isValidUTF8]
    rfl
  rw [FileSource.text, source, read_of_writeBytes written]
  simp only [decodes]

end Directory

end Toolpath
