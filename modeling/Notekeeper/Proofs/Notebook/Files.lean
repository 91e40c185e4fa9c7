import Notekeeper.Notebook.Basic
import Notekeeper.Proofs.Store.Change

/-!
# The files of a notebook

The main and diff files of both stores, the snapshot in transit, the exchange package and the
backups all bear different names, wherever the folders of the layout lie. So writing one of them
leaves the others alone (`FilesStay`), and with them what is known of the stores: that their files
hold them (`Durable`), or that their touched notes tell all in which they differ from the files
(`Kept`).
-/

namespace Notekeeper

namespace Layout

/-- The names that the files of a notebook have, other than backups. -/
def ownNames : List (List Char) :=
  [notesName.toList, notesName.toList ++ ".diffnew".toList, trashName.toList,
    trashName.toList ++ ".diffnew".toList, snapshotName.toList, packageName.toList]

/-- The files of both stores. -/
def storeFiles (layout : Layout) : List String :=
  [layout.notesPath, Store.diffPath layout.notesPath, layout.trashPath,
    Store.diffPath layout.trashPath]

/-- The snapshot in transit and the exchange package. -/
def exchangeFiles (layout : Layout) : List String :=
  [layout.snapshotPath, layout.packagePath]

variable {layout : Layout}

/-- The name of the main file of the primary store. -/
theorem last_name_notes : Path.lastName layout.notesPath = notesName.toList :=
  (Path.last_name_join _ _).trans (by decide)

/-- The name of the main file of the trash. -/
theorem last_name_trash : Path.lastName layout.trashPath = trashName.toList :=
  (Path.last_name_join _ _).trans (by decide)

/-- The name of the snapshot in transit. -/
theorem last_name_snapshot : Path.lastName layout.snapshotPath = snapshotName.toList :=
  (Path.last_name_join _ _).trans (by decide)

/-- The name of the exchange package. -/
theorem last_name_package : Path.lastName layout.packagePath = packageName.toList :=
  (Path.last_name_join _ _).trans (by decide)

/-- The name of a diff file. -/
theorem last_name_diff (path : String) :
    Path.lastName (Store.diffPath path) = Path.lastName path ++ ".diffnew".toList :=
  Path.last_name_append path (by decide)

/-- The files of the stores and the files of an exchange bear different names. -/
theorem apart_exchange {own path : String} (hown : own ∈ layout.storeFiles)
    (hpath : path ∈ layout.exchangeFiles) : Disk.Apart path own := by
  simp only [storeFiles, exchangeFiles, List.mem_cons, List.not_mem_nil, or_false] at hown hpath
  rcases hown with rfl | rfl | rfl | rfl <;> rcases hpath with rfl | rfl <;>
    (constructor <;>
      simp only [last_name_diff, last_name_notes, last_name_trash, last_name_snapshot,
        last_name_package] <;>
      decide)

/-- The files of the primary store bear names of their own. -/
theorem apart_notes {own path : String}
    (hown : own ∈ [layout.notesPath, Store.diffPath layout.notesPath])
    (hpath : path ∈ [layout.trashPath, Store.diffPath layout.trashPath] ++ layout.exchangeFiles) :
    Disk.Apart own path := by
  simp only [exchangeFiles, List.cons_append, List.nil_append, List.mem_cons, List.not_mem_nil,
    or_false] at hown hpath
  rcases hown with rfl | rfl <;> rcases hpath with rfl | rfl | rfl | rfl <;>
    (constructor <;>
      simp only [last_name_diff, last_name_notes, last_name_trash, last_name_snapshot,
        last_name_package] <;>
      decide)

/-- The files of the trash bear names of their own. -/
theorem apart_trash {own path : String}
    (hown : own ∈ [layout.trashPath, Store.diffPath layout.trashPath])
    (hpath : path ∈ [layout.notesPath, Store.diffPath layout.notesPath] ++ layout.exchangeFiles) :
    Disk.Apart own path := by
  rcases List.mem_append.1 hpath with hnotes | hexchange
  · exact (apart_notes hnotes (List.mem_append_left _ hown)).symm
  · refine (apart_exchange ?_ hexchange).symm
    simp only [storeFiles, List.mem_cons, List.not_mem_nil, or_false] at hown ⊢
    exact .inr (.inr hown)

/-- A backup bears a name of its own, whatever its suffix holds. -/
theorem apart_backup (moment : Moment) (suffix? : Option String) {file own : String}
    (hfile : file ∈ [notesName, trashName])
    (hown : own ∈ layout.storeFiles ++ layout.exchangeFiles) :
    Disk.Apart (layout.backupPath moment suffix? file) own := by
  have hslash : '/' ∉ ("_" ++ file).toList := by
    simp only [List.mem_cons, List.not_mem_nil, or_false] at hfile
    rcases hfile with rfl | rfl <;> decide
  have hlong : 2 < ("_" ++ file).toList.length := by
    simp only [List.mem_cons, List.not_mem_nil, or_false] at hfile
    rcases hfile with rfl | rfl <;> decide
  have hsuffix : ("_" ++ file).toList <:+
      Path.lastName (layout.backupPath moment suffix? file) := by
    obtain ⟨front, hname⟩ : ∃ front, backupName moment suffix? file = front ++ ("_" ++ file) := by
      cases suffix? with
      | none => exact ⟨"backup_" ++ moment.fileStamp, by simp [backupName, String.append_assoc]⟩
      | some suffix =>
          exact ⟨"backup_" ++ moment.fileStamp ++ ("_" ++ suffix),
            by simp [backupName, String.append_assoc]⟩
    rw [backupPath, Path.last_name_join, hname, Path.last_name_append _ hslash]
    exact List.suffix_append _ _
  have hname : Path.lastName own ∈ ownNames := by
    simp only [storeFiles, exchangeFiles, List.cons_append, List.nil_append, List.mem_cons,
      List.not_mem_nil, or_false] at hown
    rcases hown with rfl | rfl | rfl | rfl | rfl | rfl <;>
      simp only [last_name_diff, last_name_notes, last_name_trash, last_name_snapshot,
        last_name_package] <;>
      decide
  have hnone : ∀ name ∈ ownNames, 2 < name.length ∧ ¬ ("_" ++ file).toList <:+ name := by
    simp only [List.mem_cons, List.not_mem_nil, or_false] at hfile
    rcases hfile with rfl | rfl <;> decide
  exact ⟨Nat.lt_of_lt_of_le hlong hsuffix.length_le, (hnone _ hname).1,
    fun heq => (hnone _ hname).2 (heq ▸ hsuffix)⟩

end Layout

end Notekeeper
