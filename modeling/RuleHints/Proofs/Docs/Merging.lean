import RuleHints.Proofs.Docs.Insertions
import RuleHints.Proofs.Files.Walk
import RuleHints.Proofs.Text.Marks

/-!
# Merging a tree of pages

What a corpus has under a name after a tree was merged into it, and what is left of a merge that comes
upon a page that is not text. The pages of a name are found here by their paths alone: `n.md` at the
top, and every `n.md` further down, in the order of the walk.
-/

namespace RuleHints

namespace Path

theorem splitExtension_eq (name : Text) :
    splitExtension name =
      let extension := Text.afterLast '.' name
      let stem := name.take (name.length - extension.length - 1)
      if extension.length = name.length || stem.isEmpty || name = ".." then (name, none)
      else (stem, some extension) := rfl

theorem splitExtension_append {stem extension : Text} (hs : stem ≠ []) (he : '.' ∉ extension)
    (hne : extension ≠ []) :
    splitExtension (stem ++ '.' :: extension) = (stem, some extension) := by
  have htail : Text.afterLast '.' (stem ++ '.' :: extension) = extension :=
    Text.afterLast_cons_mark he stem
  have hlength : (stem ++ '.' :: extension).length = stem.length + 1 + extension.length := by
    simp only [List.length_append, List.length_cons]
    omega
  have htake : (stem ++ '.' :: extension).take
      ((stem ++ '.' :: extension).length - extension.length - 1) = stem := by
    rw [show (stem ++ '.' :: extension).length - extension.length - 1 = stem.length by omega,
      List.take_left]
  have hdots : stem ++ '.' :: extension ≠ (".." : Text) := by
    intro heq
    have hone : stem.length + 1 + extension.length = 2 := by rw [← hlength, heq]; rfl
    have hspos := List.length_pos_iff.2 hs
    have hepos := List.length_pos_iff.2 hne
    omega
  simp only [splitExtension_eq, htail, htake]
  rw [if_neg]
  simp only [Bool.or_eq_true, decide_eq_true_eq, List.isEmpty_iff]
  rintro ((hfull | hempty) | heq)
  · omega
  · exact hs hempty
  · exact hdots heq

theorem eq_of_splitExtension {name stem extension : Text}
    (h : splitExtension name = (stem, some extension)) :
    stem ≠ [] ∧ name = stem ++ '.' :: extension := by
  simp only [splitExtension_eq] at h
  split at h
  · cases h
  · next hcondition =>
    simp only [Bool.or_eq_true, decide_eq_true_eq, List.isEmpty_iff, not_or] at hcondition
    obtain ⟨⟨hfull, hstem⟩, _⟩ := hcondition
    rcases Text.afterLast_cases '.' name with hwhole | ⟨lead, hname⟩
    · exact absurd (congrArg List.length hwhole) hfull
    · have htake : name.take (name.length - (Text.afterLast '.' name).length - 1) = lead := by
        have hlength := congrArg List.length hname
        simp only [List.length_append, List.length_cons] at hlength
        rw [show name.length - (Text.afterLast '.' name).length - 1 = lead.length by omega]
        conv_lhs => rw [hname]
        exact List.take_left
      rw [htake] at h hstem
      cases h
      exact ⟨hstem, hname⟩

/-- A path names a page if its last name is more than the extension. -/
theorem extension?_eq_md_iff {path : Path} {stem : Text} :
    path.extension? = some "md" ∧ path.stem = stem ↔
      stem ≠ [] ∧ path.getLast? = some (stem ++ ".md") := by
  simp only [extension?, Path.stem]
  cases path.getLast? with
  | none => simp
  | some name =>
    simp only [Option.bind_some, Option.map_some, Option.getD_some, Option.some.injEq]
    constructor
    · rintro ⟨hextension, rfl⟩
      exact eq_of_splitExtension (Prod.ext rfl hextension)
    · rintro ⟨hstem, rfl⟩
      have hsplit : splitExtension (stem ++ ".md") = (stem, some ['m', 'd']) :=
        splitExtension_append hstem (by decide) (by decide)
      exact ⟨congrArg Prod.snd hsplit, congrArg Prod.fst hsplit⟩

end Path

/-- The page has a body. -/
def Page.hasBody (page : Page) : Bool := !page.body.isEmpty

namespace Corpus

/-! ### Pages by their paths -/

theorem pageName?_eq_some_iff {file : File} {name : Text} :
    pageName? file = some name ↔
      name ≠ [] ∧ name ≠ "README" ∧ file.path.getLast? = some (name ++ ".md") := by
  rw [and_left_comm, ← Path.extension?_eq_md_iff]
  simp only [pageName?, Bool.and_eq_true, decide_eq_true_eq, bne_iff_ne]
  constructor
  · intro h
    split at h
    · next hpage =>
      cases h
      exact ⟨hpage.2, hpage.1, rfl⟩
    · cases h
  · rintro ⟨hreadme, hextension, rfl⟩
    rw [if_pos ⟨hextension, hreadme⟩]

/-- The page of a name that a file holds. -/
def pageOf? (base name : Text) (file : File) : Option Page :=
  if file.path.getLast? = some (name ++ ".md") then
    file.text?.map fun body => ⟨pageUrl base file.path, body⟩
  else none

/-- The page of a name at the top. -/
def topPage? (base : Text) (files : List File) (name : Text) : Option Page :=
  (files.find? fun file => file.path = [name ++ ".md"]).bind (pageOf? base name)

/-- The pages of a name further down, in the order of the files. -/
def nestedPages (base : Text) (files : List File) (name : Text) : List Page :=
  (files.filter fun file => !(file.path.length ≤ 1)).filterMap (pageOf? base name)

/-- A page that is not text. -/
def isBroken (file : File) : Bool := (pageName? file).isSome && file.text?.isNone

/-- The page that a file holds, with its name. -/
def held? (base : Text) (file : File) : Option (Text × Page) :=
  (pageName? file).bind fun name => file.text?.map fun body => (name, ⟨pageUrl base file.path, body⟩)

def topEntries (base : Text) (files : List File) : List (Text × Page) :=
  (files.filter (·.path.length ≤ 1)).filterMap (held? base)

def nestedEntries (base : Text) (files : List File) : List (Text × Page) :=
  (files.filter fun file => !(file.path.length ≤ 1)).filterMap (held? base)

theorem topEntries_append (base : Text) (files more : List File) :
    topEntries base (files ++ more) = topEntries base files ++ topEntries base more := by
  simp [topEntries, List.filter_append]

theorem nestedEntries_append (base : Text) (files more : List File) :
    nestedEntries base (files ++ more) = nestedEntries base files ++ nestedEntries base more := by
  simp [nestedEntries, List.filter_append]

theorem held?_eq_some_iff {base name : Text} {file : File} {page : Page} :
    held? base file = some (name, page) ↔
      name ≠ [] ∧ name ≠ "README" ∧ pageOf? base name file = some page := by
  simp only [held?, pageOf?, Option.bind_eq_some_iff, Option.map_eq_some_iff, Prod.mk.injEq]
  constructor
  · rintro ⟨other, hname, body, hbody, rfl, rfl⟩
    obtain ⟨hempty, hreadme, hlast⟩ := pageName?_eq_some_iff.1 hname
    rw [if_pos hlast, hbody]
    exact ⟨hempty, hreadme, rfl⟩
  · rintro ⟨hempty, hreadme, hpage⟩
    split at hpage
    · next hlast =>
      obtain ⟨body, hbody, rfl⟩ := Option.map_eq_some_iff.1 hpage
      exact ⟨name, pageName?_eq_some_iff.2 ⟨hempty, hreadme, hlast⟩, body, hbody, rfl, rfl⟩
    · cases hpage

theorem pages_of_name {name : Text} (hempty : name ≠ []) (hreadme : name ≠ "README") (base : Text)
    (files : List File) :
    ((files.filterMap (held? base)).filter (·.1 = name)).map (·.2) =
      files.filterMap (pageOf? base name) := by
  rw [List.filter_filterMap, List.map_filterMap]
  congr 1
  funext file
  ext page
  simp only [Option.map_eq_some_iff, Option.filter_eq_some_iff, decide_eq_true_eq]
  constructor
  · rintro ⟨⟨other, found⟩, ⟨hentry, rfl⟩, rfl⟩
    exact (held?_eq_some_iff.1 hentry).2.2
  · intro hpage
    exact ⟨(name, page), ⟨held?_eq_some_iff.2 ⟨hempty, hreadme, hpage⟩, rfl⟩, rfl⟩

theorem not_page_of_name {name : Text} (h : name = [] ∨ name = "README") (base : Text)
    (files : List File) : (files.filterMap (held? base)).filter (·.1 = name) = [] := by
  rw [List.filter_eq_nil_iff]
  rintro ⟨other, page⟩ hmem hname
  obtain ⟨file, _, hentry⟩ := List.mem_filterMap.1 hmem
  obtain ⟨hempty, hreadme, _⟩ := held?_eq_some_iff.1 hentry
  rw [decide_eq_true_eq] at hname
  exact h.elim (hname ▸ hempty) (hname ▸ hreadme)

theorem pageOf?_of_short {file : File} {name : Text} (hpath : file.path ≠ [name ++ ".md"])
    (hshort : file.path.length ≤ 1) (base : Text) : pageOf? base name file = none := by
  refine if_neg fun hlast => hpath ?_
  obtain ⟨folder, hfolder⟩ := List.getLast?_eq_some_iff.1 hlast
  have hnil : folder = [] := by
    rw [hfolder, List.length_append, List.length_singleton] at hshort
    exact List.length_eq_zero_iff.1 (by omega)
  rw [hfolder, hnil, List.nil_append]

/- Each path is there once, so at the top there is at most one page of a name. -/
theorem topPages_eq {files : List File} (h : files.Pairwise fun a b => a.path ≠ b.path)
    (base name : Text) :
    (files.filter (·.path.length ≤ 1)).filterMap (pageOf? base name) =
      (topPage? base files name).toList := by
  induction files with
  | nil => rfl
  | cons file files ih =>
    obtain ⟨hfile, hfiles⟩ := List.pairwise_cons.1 h
    have ih := ih hfiles
    by_cases hpath : file.path = [name ++ ".md"]
    · have hfind : files.find? (fun file => file.path = [name ++ ".md"]) = none := by
        rw [List.find?_eq_none]
        intro other hother heq
        exact hfile other hother (hpath.trans (of_decide_eq_true heq).symm)
      have hrest : (files.filter (·.path.length ≤ 1)).filterMap (pageOf? base name) = [] := by
        rw [ih, topPage?, hfind]
        rfl
      have hshort : file.path.length ≤ 1 := by simp [hpath]
      rw [List.filter_cons_of_pos (by simpa using hshort), topPage?,
        List.find?_cons_of_pos (by simpa using hpath), Option.bind_some]
      cases hpage : pageOf? base name file with
      | none => rw [List.filterMap_cons_none hpage, hrest]; rfl
      | some page => rw [List.filterMap_cons_some hpage, hrest]; rfl
    · have htop : topPage? base (file :: files) name = topPage? base files name := by
        rw [topPage?, List.find?_cons_of_neg (by simpa using hpath)]
        rfl
      rw [htop, ← ih]
      by_cases hshort : file.path.length ≤ 1
      · rw [List.filter_cons_of_pos (by simpa using hshort),
          List.filterMap_cons_none (pageOf?_of_short hpath hshort base)]
      · rw [List.filter_cons_of_neg (by simpa using hshort)]

/-! ### What a merge does to the corpus -/

theorem topEntries_singleton (base : Text) (file : File) :
    topEntries base [file] = if file.path.length ≤ 1 then (held? base file).toList else [] := by
  by_cases h : file.path.length ≤ 1
  · cases hheld : held? base file <;> simp [topEntries, h, hheld]
  · simp [topEntries, h]

theorem nestedEntries_singleton (base : Text) (file : File) :
    nestedEntries base [file] = if file.path.length ≤ 1 then [] else (held? base file).toList := by
  by_cases h : file.path.length ≤ 1
  · simp [nestedEntries, h]
  · cases hheld : held? base file <;> simp [nestedEntries, h, hheld]

theorem mergeTop_cons {file : File} (hfile : isBroken file = false) (base : Text) (corpus : Corpus)
    (files : List File) :
    mergeTop base corpus (file :: files) =
      ((mergeTop base (corpus.insertAll (topEntries base [file])) files).1,
        (mergeTop base (corpus.insertAll (topEntries base [file])) files).2.map
          (nestedEntries base [file] ++ ·)) := by
  have hnone : ∀ result : Except Failure (List (Text × Page)), result.map ([] ++ ·) = result := by
    intro result
    cases result <;> rfl
  rw [topEntries_singleton, nestedEntries_singleton]
  cases hname : pageName? file with
  | none =>
    have hheld : held? base file = none := by rw [held?, hname]; rfl
    simp only [mergeTop, hname, hheld, Option.toList_none, ite_self, hnone]
    rfl
  | some name =>
    cases hbody : file.text? with
    | none => simp [isBroken, hname, hbody] at hfile
    | some body =>
      have hheld : held? base file = some (name, ⟨pageUrl base file.path, body⟩) := by
        rw [held?, hname, hbody]
        rfl
      by_cases h : file.path.length ≤ 1
      · simp only [mergeTop, hname, hbody, hheld, h, if_true, hnone]
        rfl
      · simp only [mergeTop, hname, hbody, hheld, h, if_false]
        rfl

theorem mergeTop_readable {files : List File} (h : ∀ file ∈ files, isBroken file = false)
    (base : Text) (corpus : Corpus) :
    mergeTop base corpus files =
      (corpus.insertAll (topEntries base files), .ok (nestedEntries base files)) := by
  induction files generalizing corpus with
  | nil => rfl
  | cons file files ih =>
    obtain ⟨hfile, hfiles⟩ := List.forall_mem_cons.1 h
    have htop := topEntries_append base [file] files
    have hnested := nestedEntries_append base [file] files
    rw [List.singleton_append] at htop hnested
    rw [mergeTop_cons hfile, ih hfiles, htop, hnested, insertAll_append]
    rfl

theorem mergeTop_broken {before : List File} {file : File}
    (h : ∀ file ∈ before, isBroken file = false) (hfile : isBroken file = true) (later : List File)
    (base : Text) (corpus : Corpus) :
    mergeTop base corpus (before ++ file :: later) =
      (corpus.insertAll (topEntries base before), .error .file) := by
  induction before generalizing corpus with
  | nil =>
    obtain ⟨hname, hbody⟩ := Bool.and_eq_true_iff.1 hfile
    obtain ⟨name, hname⟩ := Option.isSome_iff_exists.1 hname
    rw [List.nil_append, mergeTop, hname, Option.isNone_iff_eq_none.1 hbody]
    rfl
  | cons first before ih =>
    obtain ⟨hfirst, hbefore⟩ := List.forall_mem_cons.1 h
    have htop := topEntries_append base [first] before
    rw [List.singleton_append] at htop
    rw [List.cons_append, mergeTop_cons hfirst, ih hbefore, htop, insertAll_append]
    rfl

/- A walk is read to its end, or up to the first page that is not text. -/
theorem readable_or_broken (files : List File) :
    (∀ file ∈ files, isBroken file = false) ∨
      ∃ before file later, files = before ++ file :: later ∧
        (∀ file ∈ before, isBroken file = false) ∧ isBroken file = true := by
  cases hfind : files.find? isBroken with
  | none =>
    refine Or.inl fun file hfile => ?_
    simpa using List.find?_eq_none.1 hfind file hfile
  | some file =>
    obtain ⟨hfile, before, later, heq, hbefore⟩ := List.find?_eq_some_iff_append.1 hfind
    exact Or.inr ⟨before, file, later, heq, by simpa using hbefore, hfile⟩

/-! ### The page that is chosen -/

/-- The page of a name: the one at the top if it has a body, else the first one further down that has a
body, else the last one further down, else the one at the top. -/
def chosen (top : Option Page) (nested : List Page) : Option Page :=
  (top.filter Page.hasBody).or ((nested.find? Page.hasBody).or (nested.getLast?.or top))

theorem chosen_of_hasBody {page : Page} (h : page.hasBody = true) (nested : List Page) :
    chosen (some page) nested = some page := by
  rw [chosen, Option.filter_some, if_pos h]
  rfl

theorem chosen_of_bare {top : Option Page} (h : ∀ page ∈ top, page.hasBody = false)
    (nested : List Page) :
    chosen top nested = (nested.find? Page.hasBody).or (nested.getLast?.or top) := by
  have hnone : top.filter Page.hasBody = none := by
    rw [Option.filter_eq_none_iff]
    simpa using h
  rw [chosen, hnone, Option.none_or]

theorem chosen_nil (top : Option Page) : chosen top [] = top := by
  by_cases h : ∀ page ∈ top, page.hasBody = false
  · rw [chosen_of_bare h]
    rfl
  · obtain ⟨page, rfl, hbody⟩ : ∃ page, top = some page ∧ page.hasBody = true := by simpa using h
    exact chosen_of_hasBody hbody []

theorem chosen_singleton {top : Option Page} (h : ∀ page ∈ top, page.hasBody = false) (page : Page) :
    chosen top [page] = some page := by
  rw [chosen_of_bare h, List.find?_singleton]
  split <;> rfl

/- Putting the nested pages in one by one comes to the same choice: as long as the page that is there
has no body, the next one takes its place. -/
theorem chosen_cons (top : Option Page) (page : Page) (nested : List Page) :
    chosen top (page :: nested) = chosen (chosen top [page]) nested := by
  by_cases h : ∀ page ∈ top, page.hasBody = false
  · rw [chosen_singleton h, chosen_of_bare h]
    by_cases hbody : page.hasBody = true
    · rw [chosen_of_hasBody hbody, List.find?_cons_of_pos hbody]
      rfl
    · have hbare : ∀ other ∈ some page, other.hasBody = false := by simpa using hbody
      rw [chosen_of_bare hbare, List.find?_cons_of_neg hbody, List.getLast?_cons]
      cases nested.getLast? <;> rfl
  · obtain ⟨other, rfl, hother⟩ : ∃ page, top = some page ∧ page.hasBody = true := by simpa using h
    rw [chosen_of_hasBody hother, chosen_of_hasBody hother, chosen_of_hasBody hother]

theorem get?_insertNested_self (corpus : Corpus) (entry : Text × Page) :
    (corpus.insertNested entry).pages.get? entry.1 =
      chosen (corpus.pages.get? entry.1) [entry.2] := by
  rw [insertNested]
  cases hold : corpus.pages.get? entry.1 with
  | none => rw [chosen_singleton (by simp), get?_pages_insert_self]
  | some page =>
    by_cases hempty : page.body.isEmpty = true
    · have hbare : ∀ other ∈ some page, other.hasBody = false := by simpa [Page.hasBody] using hempty
      simp only [hempty, if_true]
      rw [chosen_singleton hbare, get?_pages_insert_self]
    · have hbody : page.hasBody = true := by simpa [Page.hasBody] using hempty
      simp only [hempty]
      rw [chosen_of_hasBody hbody]
      exact hold

theorem get?_insertNested_of_ne {entry : Text × Page} {name : Text} (h : entry.1 ≠ name)
    (corpus : Corpus) : (corpus.insertNested entry).pages.get? name = corpus.pages.get? name := by
  rw [insertNested]
  split
  · split
    · exact get?_pages_insert_of_ne h corpus entry.2
    · rfl
  · exact get?_pages_insert_of_ne h corpus entry.2

theorem get?_foldl_insertNested (entries : List (Text × Page)) (corpus : Corpus) (name : Text) :
    (entries.foldl insertNested corpus).pages.get? name =
      chosen (corpus.pages.get? name) ((entries.filter (·.1 = name)).map (·.2)) := by
  induction entries generalizing corpus with
  | nil => exact (chosen_nil _).symm
  | cons entry entries ih =>
    rw [List.foldl_cons, ih]
    by_cases h : entry.1 = name
    · subst h
      rw [get?_insertNested_self, List.filter_cons_of_pos (by simp), List.map_cons]
      exact (chosen_cons ..).symm
    · rw [get?_insertNested_of_ne h, List.filter_cons_of_neg (by simpa using h)]

/-! ### The whole merge -/

theorem mergeFiles_readable {files : List File} (h : ∀ file ∈ files, isBroken file = false)
    (corpus : Corpus) (base : Text) :
    corpus.mergeFiles base files =
      ((nestedEntries base files).foldl insertNested (corpus.insertAll (topEntries base files)),
        .ok ()) := by
  rw [mergeFiles, mergeTop_readable h]

theorem mergeFiles_broken {before : List File} {file : File}
    (h : ∀ file ∈ before, isBroken file = false) (hfile : isBroken file = true) (later : List File)
    (corpus : Corpus) (base : Text) :
    corpus.mergeFiles base (before ++ file :: later) =
      (corpus.insertAll (topEntries base before), .error .file) := by
  rw [mergeFiles, mergeTop_broken h hfile]

theorem get?_mergeFiles {files : List File} (h : ∀ file ∈ files, isBroken file = false)
    (paths : files.Pairwise fun a b => a.path ≠ b.path) (corpus : Corpus) (base name : Text) :
    (corpus.mergeFiles base files).1.pages.get? name =
      if name = [] ∨ name = "README" then corpus.pages.get? name
      else
        chosen ((topPage? base files name).or (corpus.pages.get? name))
          (nestedPages base files name) := by
  rw [mergeFiles_readable h, get?_foldl_insertNested, get?_pages_insertAll, latest?,
    ← List.getLast?_map, topEntries, nestedEntries]
  split
  · next hname =>
    rw [not_page_of_name hname, not_page_of_name hname]
    exact chosen_nil _
  · next hname =>
    obtain ⟨hempty, hreadme⟩ := not_or.1 hname
    rw [pages_of_name hempty hreadme, pages_of_name hempty hreadme, topPages_eq paths, nestedPages]
    cases topPage? base files name <;> rfl

theorem pageUrl_eq (base : Text) (folder : Path) {name : Text} (hempty : name ≠ [])
    (hdot : name ≠ ".") :
    pageUrl base (folder ++ [name ++ ".md"]) =
      base ++ (Path.toText (folder ++ [name ++ ".html"])).map
        fun c => if c = '\\' then '/' else c := by
  have hstem : Path.stem (folder ++ [name ++ ".md"]) = name :=
    (Path.extension?_eq_md_iff.2 ⟨hempty, List.getLast?_concat⟩).2
  simp only [pageUrl, Path.withExtension, hstem, hdot, if_false, List.dropLast_concat,
    List.append_assoc]
  rfl

/-- Merging a tree picks the right pages. The files below the directory come in the order of a walk. The
merge succeeds exactly if all their pages are text, and then each name has the page that is chosen
from the page at the top, or else the page that was there before, and from the pages further
down; a file `README.md` or `.md` is no page. If the merge fails, it has put in the pages at the
top that come before the first page that is not text, and nothing else. The address of a page is its path
with another extension, with slashes for backslashes. -/
theorem merged_pages_chosen (corpus : Corpus) (tree : FileTree) (directory base : Text) (path : Path)
    (wellFormed : tree.WellFormed) (hd : tree.directory? directory = some path) :
    let files := tree.below path
    let merged := corpus.merge tree directory base
    FileTree.InOrder files ∧
    (merged.2 = .ok () ↔ ∀ file ∈ files, isBroken file = false) ∧
    (merged.2 = .ok () → ∀ name,
      merged.1.pages.get? name =
        if name = [] ∨ name = "README" then corpus.pages.get? name
        else
          chosen ((topPage? base files name).or (corpus.pages.get? name))
            (nestedPages base files name)) ∧
    (∀ failure, merged.2 = .error failure →
      ∃ before file later, files = before ++ file :: later ∧
        (∀ other ∈ before, isBroken other = false) ∧ isBroken file = true ∧
        merged.1 = corpus.insertAll (topEntries base before)) ∧
    ∀ (folder : Path) (name : Text), name ≠ [] → name ≠ "." →
      pageUrl base (folder ++ [name ++ ".md"]) =
        base ++ (Path.toText (folder ++ [name ++ ".html"])).map
          fun c => if c = '\\' then '/' else c := by
  intro files merged
  have hmerged : merged = corpus.mergeFiles base files := by simp only [merged, merge, hd, files]
  have hwalk : FileTree.InOrder files := wellFormed.inOrder_below path
  refine ⟨hwalk, ?_, ?_, ?_, fun folder name => pageUrl_eq base folder⟩
  · rcases readable_or_broken files with h | ⟨before, file, later, heq, hbefore, hfile⟩
    · rw [hmerged, mergeFiles_readable h]
      exact iff_of_true rfl h
    · rw [hmerged, heq, mergeFiles_broken hbefore hfile]
      refine iff_of_false (by simp) fun h => ?_
      rw [h file (List.mem_append_right _ (List.mem_cons_self ..))] at hfile
      cases hfile
  · intro hok name
    rcases readable_or_broken files with h | ⟨before, file, later, heq, hbefore, hfile⟩
    · rw [hmerged, get?_mergeFiles h hwalk.paths_ne]
    · rw [hmerged, heq, mergeFiles_broken hbefore hfile] at hok
      cases hok
  · intro failure herror
    rcases readable_or_broken files with h | ⟨before, file, later, heq, hbefore, hfile⟩
    · rw [hmerged, mergeFiles_readable h] at herror
      cases herror
    · refine ⟨before, file, later, heq, hbefore, hfile, ?_⟩
      rw [hmerged, heq, mergeFiles_broken hbefore hfile]

/- The page at the top and the first one further down have no body, so the second one further down is
chosen. -/
theorem second_nested_page_chosen :
    let tree := (((({} : FileTree).write (Path.ofText "docs/proxy.md") []).write
      (Path.ofText "docs/a/proxy.md") []).write (Path.ofText "docs/b/proxy.md") [0x62]).write
      (Path.ofText "docs/c/proxy.md") [0x63]
    tree.WellFormed ∧ tree.directory? "docs" = some [("docs" : Text)] ∧
      (merge {} tree "docs" "help/").2 = .ok () ∧
      (merge {} tree "docs" "help/").1.pages.get? "proxy" = some ⟨"help/b/proxy.html", "b"⟩ := by
  intro tree
  have wellFormed : tree.WellFormed := (((FileTree.wellFormed_empty.write ..).write ..).write ..).write ..
  have hd : tree.directory? "docs" = some [("docs" : Text)] := by decide
  have h := merged_pages_chosen {} tree "docs" "help/" ["docs"] wellFormed hd
  have hok : (merge {} tree "docs" "help/").2 = .ok () := h.2.1.2 (by decide)
  refine ⟨wellFormed, hd, hok, (h.2.2.1 hok "proxy").trans ?_⟩
  decide

/- The address of a page is not always its path below the base: a backslash in a name becomes a slash,
and `..md` without its extension is no name of a file, so it gets no other extension. -/
theorem addresses_unlike_paths :
    let tree := (({} : FileTree).write (Path.ofText "docs/a\\b.md") [0x78]).write
      (Path.ofText "docs/..md") [0x79]
    let merged := merge {} tree "docs" "help/"
    tree.WellFormed ∧ merged.2 = .ok () ∧
      merged.1.pages.get? "a\\b" = some ⟨"help/a/b.html", "x"⟩ ∧
      ("help/a/b.html" : Text) ≠ "help/" ++ Path.toText [("a\\b.html" : Text)] ∧
      merged.1.pages.get? "." = some ⟨"help/..", "y"⟩ ∧
      ("help/.." : Text) ≠ "help/" ++ Path.toText [("..html" : Text)] := by
  intro tree merged
  have wellFormed : tree.WellFormed := (FileTree.wellFormed_empty.write ..).write ..
  exact ⟨wellFormed, rfl, by decide, by decide, by decide, by decide⟩

end Corpus

end RuleHints
