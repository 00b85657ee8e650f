import Guidebook.Proofs.Document.Load
import Guidebook.Proofs.Document.Survey
import Guidebook.Proofs.Storage.Content
import Guidebook.Proofs.Storage.Resolution

namespace Guidebook
namespace Document

/-!
# Surveys before and after a document is replaced

Which documents a survey lists depends on the shape of what is stored, and the plan of
a document on its own bytes.  Two documents of a survey are at different locations, so
what is written over one of them does not reach any other.
-/

/-! ## What a survey looks at -/

theorem isDocument_shape (settings : Settings) (visit : Visit) :
    isDocument settings visit.shape = isDocument settings visit := by
  rw [isDocument, isDocument, Visit.shape, Entry.isFile_shape]

/-- A walk finds the documents of a folder by its shape. -/
theorem documents_shape (settings : Settings) (path : Path) (folder : Entry) :
    documents settings path folder.shape = documents settings path folder := by
  have sameTest : isDocument settings ∘ Visit.shape = isDocument settings :=
    funext (isDocument_shape settings)
  rw [documents, documents, Entry.visits_shape, List.filter_map, List.map_map, sameTest]
  rfl

variable {storage after : Storage} {settings : Settings}

/-- Storages that differ in one file have the same documents. -/
theorem discover_eq_of_agree {location : Location}
    (agree : Storage.AgreeExcept location storage after) (path : Path) :
    discover after settings path = discover storage settings path := by
  rw [discover, discover]
  rcases agree.entry?_cases path with ⟨fault, left, right⟩ | ⟨place, held, other, left, right, same⟩
  · rw [left, right]
  · rw [left, right]
    cases held with
    | folder entries =>
        cases other with
        | folder others => simp only [← documents_shape settings path (.folder _), same]
        | _ => simp [Entry.shape] at same
    | _ => cases other <;> first | rfl | simp [Entry.shape] at same

/-- The plan of a document depends on what its path leads to. -/
theorem compile_congr {path : Path} (sameFile : storage.isFile path = after.isFile path)
    (sameText : storage.readText path = after.readText path) :
    compile after settings path = compile storage settings path := by
  have sameFormat : formatOf after path = formatOf storage path := by
    simp only [formatOf, Readable.isFile, sameFile]
  cases found : formatOf storage path with
  | error failure =>
      rw [compile_of_refused settings found, compile_of_refused settings (sameFormat.trans found)]
  | ok format =>
      rw [compile_of_found settings found, compile_of_found settings (sameFormat.trans found)]
      simp only [Readable.readText, sameText]

/-! ## A document that is replaced -/

/-- A document of a survey that can be written over is at its own location. -/
theorem agreeExcept_of_listed {path : Path} {base names : Location}
    {entries : List (Name × Entry)} (isFolder : storage.entry? path = .ok (base, .folder entries))
    (tree : storage.root.IsTree) (listed : IsListed storage settings base names)
    {content : Bytes} (written : storage.write (path.under names) content = .ok after) :
    Storage.AgreeExcept (base ++ names) storage after := by
  rcases listed.isFile with ⟨old, isFile⟩
  rcases Storage.resolve_under isFolder (listed.areNames tree) isFile with found | ⟨fault, failed⟩
  · have leads : storage.entry? (path.under names) = .ok (base ++ names, .file old) := by
      unfold Storage.entry?
      rw [found]
    exact Storage.agreeExcept_of_write leads written
  · -- What cannot be reached cannot be written over.
    rw [Storage.write, failed] at written
    split at written
    · split at written <;> cases written
    · cases written

/-- To replace a document of a survey changes neither the list of the documents nor the
plan of any other document on it. -/
theorem discover_compile_of_write (tree : storage.root.IsTree) {path target : Path}
    {paths : List Path} (found : discover storage settings path = .ok paths)
    (member : target ∈ paths) {content : Bytes}
    (written : storage.write target content = .ok after) :
    discover after settings path = .ok paths ∧
      forall other, other ∈ paths -> other ≠ target ->
        compile after settings other = compile storage settings other := by
  rcases exists_folder_mem_iff tree found with ⟨base, entries, isFolder, isExact⟩
  rcases (isExact target).mp member with ⟨names, listed, rfl⟩
  have agree := agreeExcept_of_listed isFolder tree listed written
  refine ⟨(discover_eq_of_agree agree path).trans found, fun other inPaths apart => ?_⟩
  rcases (isExact other).mp inPaths with ⟨others, listedToo, rfl⟩
  rcases listedToo.isFile with ⟨content, isFile⟩
  have elsewhere : forall entry,
      storage.entry? (path.under others) ≠ .ok (base ++ names, entry) := by
    intro entry leads
    rcases Storage.entry?_under isFolder (listedToo.areNames tree) isFile with
      reached | ⟨fault, failed⟩
    · have samePlace := (Prod.mk.inj (Except.ok.inj (reached.symm.trans leads))).1
      exact apart (congrArg path.under (List.append_cancel_left samePlace))
    · cases failed.symm.trans leads
  exact compile_congr (agree.isFile_eq _) (agree.readText_eq elsewhere)

end Document
end Guidebook
