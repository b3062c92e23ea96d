import Fanout.Proofs.Json.Written
import Fanout.Proofs.Settings.Entries
import Fanout.Proofs.Text.Utf8

/-!
Files with a compact JSON text. Where a directory holds such a file, its settings are the members of the
object that is written there (`ConfigFile.settings?_of_json`).
-/

namespace Fanout

/-- A text ends with what was appended last. -/
theorem Text.endsWith_append (s t : String) : (s ++ t).endsWith t = true := by
  change String.Slice.Pattern.BackwardSliceSearcher.endsWith t.toSlice (s ++ t).toSlice = true
  have hsize : t.toSlice.utf8ByteSize ≤ (s ++ t).toSlice.utf8ByteSize := by simp
  rw [String.Slice.Pattern.BackwardSliceSearcher.endsWith, dif_pos hsize,
    String.Slice.Pattern.Internal.memcmpSlice_eq_true_iff]
  have hright : (s.toByteArray ++ t.toByteArray).extract s.utf8ByteSize
      (s.utf8ByteSize + t.utf8ByteSize) = t.toByteArray :=
    ByteArray.extract_append_eq_right String.size_toByteArray.symm
      (by rw [String.size_toByteArray, String.size_toByteArray])
  have hwhole : t.toByteArray.extract 0 t.utf8ByteSize = t.toByteArray := by
    rw [← String.size_toByteArray, ByteArray.extract_zero_size]
  simp [String.Pos.Raw.unoffsetBy, String.Pos.Raw.offsetBy, hright, hwhole]

theorem FileView.endsWith_join (directory stem extension : String) :
    (join directory (stem ++ "." ++ extension)).endsWith ("." ++ extension) = true := by
  have hname : stem ++ "." ++ extension = stem ++ ("." ++ extension) := String.append_assoc
  unfold join
  split_ifs
  · rw [hname, ← String.append_assoc]
    exact Text.endsWith_append _ _
  · rw [hname, ← String.append_assoc]
    exact Text.endsWith_append _ _

namespace Setting

/-- The settings of the compact text of an object. -/
theorem ofJsonText_compact (origin : String) {ms : List (String × Json)}
    (h : Json.Scans Json.maxDepth (.object ms)) :
    ofJsonText origin (Json.object ms).compact = tableEntries (ofJson origin (.object ms)) := by
  rw [ofJsonText, Json.parse?_compact h]

end Setting

namespace ConfigFile

variable {files : FileView} {directory : String} {f : ConfigFile}

/-- The path of a file under an extension. -/
def path (directory : String) (f : ConfigFile) (extension : String) : String :=
  FileView.join directory (f.stem ++ "." ++ extension)

/-- There is no file under any extension. -/
def IsMissing (files : FileView) (directory : String) (f : ConfigFile) : Prop :=
  ∀ e ∈ extensions, files.file? (f.path directory e) = none

/-- The file is one in JSON, and its text is the compact text of a value. -/
structure IsJson (files : FileView) (directory : String) (f : ConfigFile) (v : Json) : Prop where
  json : files.file? (f.path directory "json") = some (some v.compact.toByteArray.data.toList)
  others : ∀ e ∈ ["yaml", "yml"], files.file? (f.path directory e) = none

theorem settings?_of_missing (h : f.IsMissing files directory) :
    f.settings? files directory = .ok none := by
  have hfind : f.find? files directory = none := by
    refine List.findSome?_eq_none_iff.mpr fun p hp => ?_
    obtain ⟨e, he, rfl⟩ := List.mem_map.mp hp
    exact Option.map_eq_none_iff.mpr (h e he)
  rw [settings?, hfind]

theorem find?_of_json {v : Json} (h : f.IsJson files directory v) :
    f.find? files directory =
      some (f.path directory "json", some v.compact.toByteArray.data.toList) := by
  have hyaml := h.others "yaml" (by decide)
  have hyml := h.others "yml" (by decide)
  have hjson := h.json
  unfold path at *
  simp [find?, paths, extensions, hyaml, hyml, hjson]

/-- The settings of a file with the compact text of an object are the members of this object. -/
theorem settings?_of_json {ms : List (String × Json)} (h : f.IsJson files directory (.object ms))
    (hscan : Json.Scans Json.maxDepth (.object ms)) (hnames : (ms.map Prod.fst).Nodup) :
    f.settings? files directory = .ok (some (ms.map fun m =>
      (m.1, Setting.ofJson (FileView.normal (f.path directory "json")) m.2))) := by
  have hpath : (f.path directory "json").endsWith ".json" = true :=
    FileView.endsWith_join directory f.stem "json"
  rw [settings?, find?_of_json h]
  simp [settings, Text.ofUtf8?_toByteArray, hpath, Setting.ofJsonText_compact _ hscan,
    Setting.ofJson_object hnames, Setting.tableEntries, Except.map]

end ConfigFile

/-! ### A directory of files -/

namespace FileView

variable {directory name : String}

/-- A directory with files in it, and nothing else. Those that come without bytes cannot be read. -/
def flat (directory : String) (named : List (String × Option (List UInt8))) : FileView where
  isDirectory path := path == directory
  file? path := (named.find? fun file => join directory file.1 == path).map (·.2)

theorem join_inj {other : String} : join directory name = join directory other ↔ name = other := by
  unfold join
  split_ifs <;> simp

theorem isDirectory_flat (named : List (String × Option (List UInt8))) :
    (flat directory named).isDirectory directory = true :=
  beq_self_eq_true directory

theorem file?_flat (named : List (String × Option (List UInt8))) :
    (flat directory named).file? (join directory name) = (named.find? (·.1 == name)).map (·.2) := by
  have hsame : (fun file : String × Option (List UInt8) => join directory file.1 == join directory name) =
      (·.1 == name) := by
    funext file
    rw [Bool.eq_iff_iff, beq_iff_eq, beq_iff_eq, join_inj]
  exact congrArg (fun p => (named.find? p).map (·.2)) hsame

end FileView

/-- A JSON file among the files of a directory. -/
theorem ConfigFile.isJson_flat {directory : String} {named : List (String × Option (List UInt8))} {f : ConfigFile}
    {v : Json}
    (hjson : named.find? (·.1 == f.stem ++ "." ++ "json") =
      some (f.stem ++ "." ++ "json", some v.compact.toByteArray.data.toList))
    (hothers : ∀ e ∈ ["yaml", "yml"], f.stem ++ "." ++ e ∉ named.map Prod.fst) :
    f.IsJson (FileView.flat directory named) directory v where
  json := by rw [path, FileView.file?_flat, hjson]; rfl
  others := by
    intro e he
    rw [path, FileView.file?_flat, Option.map_eq_none_iff, List.find?_eq_none]
    intro file hfile
    rw [beq_iff_eq]
    exact fun hsame => hothers e he (hsame ▸ List.mem_map_of_mem hfile)

end Fanout
