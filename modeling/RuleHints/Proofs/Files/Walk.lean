import RuleHints.FileTree
import RuleHints.Proofs.Text.Marks

/-!
# The order of a walk

A tree that is written file by file keeps its files in the order of a walk, each path once, and no
name in it holds a slash. The files below a directory are in the same order.
-/

namespace RuleHints

namespace Path

theorem isStrict_isBefore : IsStrict isBefore := Text.isStrict_isBefore.precedes

theorem isBefore_append (folder a b : Path) :
    isBefore (folder ++ a) (folder ++ b) = isBefore a b :=
  Text.isStrict_isBefore.precedes_append folder a b

theorem not_mem_slash_ofText (t : Text) : ∀ name ∈ ofText t, '/' ∉ name := by
  intro name hname hslash
  exact Text.not_mem_of_mem_splitOn (List.mem_filter.1 hname).1 hslash

end Path

namespace FileTree

/-- The files come in the order of a walk. -/
def InOrder (files : List File) : Prop :=
  files.Pairwise fun a b => Path.isBefore a.path b.path = true

theorem InOrder.paths_ne {files : List File} (h : InOrder files) :
    files.Pairwise fun a b => a.path ≠ b.path :=
  h.imp Path.isStrict_isBefore.ne

structure WellFormed (tree : FileTree) : Prop where
  inOrder : InOrder tree.files
  named : ∀ file ∈ tree.files, ∀ name ∈ file.path, '/' ∉ name

theorem wellFormed_empty : WellFormed {} := ⟨List.Pairwise.nil, by simp⟩

theorem mem_insertFile {file other : File} {files : List File}
    (h : other ∈ insertFile file files) : other = file ∨ other ∈ files := by
  induction files with
  | nil => exact Or.inl (List.mem_singleton.1 h)
  | cons first rest ih =>
    simp only [insertFile] at h
    split at h
    · exact List.mem_cons.1 h
    · split at h
      · exact (List.mem_cons.1 h).imp_right (List.mem_cons_of_mem _)
      · rcases List.mem_cons.1 h with rfl | hrest
        · exact Or.inr (List.mem_cons_self ..)
        · exact (ih hrest).imp_right (List.mem_cons_of_mem _)

theorem InOrder.insertFile {files : List File} (h : InOrder files) (file : File) :
    InOrder (insertFile file files) := by
  induction files with
  | nil => exact List.pairwise_singleton _ _
  | cons first rest ih =>
    obtain ⟨hfirst, hrest⟩ := List.pairwise_cons.1 h
    simp only [FileTree.insertFile]
    split
    · next hbefore =>
      refine List.pairwise_cons.2 ⟨?_, h⟩
      intro other hother
      rcases List.mem_cons.1 hother with rfl | hother
      · exact hbefore
      · exact Path.isStrict_isBefore.trans hbefore (hfirst other hother)
    · next hbefore =>
      split
      · next hsame =>
        refine List.pairwise_cons.2 ⟨?_, hrest⟩
        rw [hsame]
        exact hfirst
      · next hdiffers =>
        refine List.pairwise_cons.2 ⟨?_, ih hrest⟩
        intro other hother
        rcases mem_insertFile hother with rfl | hother
        · exact Path.isStrict_isBefore.total (Bool.eq_false_iff.2 hbefore) hdiffers
        · exact hfirst other hother

/-! ### Writing -/

theorem files_makeDirectory (tree : FileTree) (path : Path) (names : List Text) :
    (tree.makeDirectory path names).1.files = tree.files := by
  induction names generalizing tree path with
  | nil => rfl
  | cons name names ih =>
    simp only [makeDirectory]
    split
    · exact ih tree path.dropLast
    · exact ih _ _

theorem mem_makeDirectory {tree : FileTree} {path : Path} {names : List Text} {name : Text}
    (h : name ∈ (tree.makeDirectory path names).2) : name ∈ path ∨ name ∈ names := by
  induction names generalizing tree path with
  | nil => exact Or.inl h
  | cons first names ih =>
    simp only [makeDirectory] at h
    split at h
    · rcases ih h with hpath | hnames
      · exact Or.inl (List.dropLast_subset _ hpath)
      · exact Or.inr (List.mem_cons_of_mem _ hnames)
    · rcases ih h with hpath | hnames
      · rcases List.mem_append.1 hpath with hold | hnew
        · exact Or.inl hold
        · exact Or.inr (List.mem_cons.2 (Or.inl (List.mem_singleton.1 hnew)))
      · exact Or.inr (List.mem_cons_of_mem _ hnames)

theorem WellFormed.write {tree : FileTree} (h : tree.WellFormed) (t : Text) (bytes : List UInt8) :
    (tree.write (Path.ofText t) bytes).WellFormed := by
  have hfiles : (tree.write (Path.ofText t) bytes).files =
      FileTree.insertFile
        ⟨(tree.makeDirectory [] (Path.ofText t).dropLast).2 ++ (Path.ofText t).getLast?.toList, bytes⟩
        tree.files := by
    simp only [FileTree.write, files_makeDirectory]
  constructor
  · rw [hfiles]
    exact h.inOrder.insertFile _
  · intro file hfile name hname
    rw [hfiles] at hfile
    rcases mem_insertFile hfile with rfl | hold
    · refine Path.not_mem_slash_ofText t name ?_
      rcases List.mem_append.1 hname with hfolder | hlast
      · rcases mem_makeDirectory hfolder with hroot | hnames
        · cases hroot
        · exact List.dropLast_subset _ hnames
      · exact List.mem_of_getLast? (Option.mem_toList.1 hlast)
    · exact h.named file hold name hname

/-! ### Walking -/

theorem append_drop_of_mem_below {tree : FileTree} {directory : Path} {file : File}
    (h : file ∈ tree.files.filter fun file =>
      directory.isPrefixOf file.path && directory != file.path) :
    directory ++ file.path.drop directory.length = file.path :=
  List.prefix_iff_eq_append.1
    (List.isPrefixOf_iff_prefix.1 (Bool.and_eq_true_iff.1 (List.mem_filter.1 h).2).1)

theorem mem_below {tree : FileTree} {directory : Path} {file : File}
    (h : file ∈ tree.below directory) :
    ⟨directory ++ file.path, file.bytes⟩ ∈ tree.files := by
  obtain ⟨whole, hwhole, rfl⟩ := List.mem_map.1 h
  rw [append_drop_of_mem_below hwhole]
  exact (List.mem_filter.1 hwhole).1

theorem WellFormed.inOrder_below {tree : FileTree} (h : tree.WellFormed) (directory : Path) :
    InOrder (tree.below directory) := by
  refine List.pairwise_map.2 ?_
  refine (h.inOrder.filter _).imp_of_mem fun {a b} ha hb hbefore => ?_
  rw [← append_drop_of_mem_below ha, ← append_drop_of_mem_below hb, Path.isBefore_append] at hbefore
  exact hbefore

theorem WellFormed.named_below {tree : FileTree} (h : tree.WellFormed) (directory : Path) :
    ∀ file ∈ tree.below directory, ∀ name ∈ file.path, '/' ∉ name := by
  intro file hfile name hname
  exact h.named _ (mem_below hfile) name (List.mem_append_right _ hname)

end FileTree

end RuleHints
