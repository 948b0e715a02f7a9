import RuleHints.Assistant
import RuleHints.Proofs.Docs.History
import RuleHints.Proofs.Line.ReadBack

/-!
# A tooltip shows the page of its own rule

The body of a page is not taken from the page that was found but searched for by its address. In a
corpus that was loaded from a tree this makes no difference, in whatever order the pages are searched:
the address of a page ends with its name, so no two pages have the same one.
-/

namespace RuleHints

/-! ### Addresses -/

namespace Corpus

/- The characters of the last name stay what they are, and a slash stays a slash. -/
theorem afterLast_pageUrl (base : Text) {path : Path} {last : Text} {folder : Path}
    (hpath : path.withExtension "html" = folder ++ [last]) (hslash : '/' ∉ last)
    (hback : '\\' ∉ last) :
    ∃ page, pageUrl base path = base ++ page ∧ Text.afterLast '/' page = last := by
  have hlast : (last.map fun c => if c = '\\' then '/' else c) = last := by
    refine (List.map_congr_left ?_).trans (List.map_id last)
    intro c hc
    refine if_neg ?_
    rintro rfl
    exact hback hc
  refine ⟨_, rfl, ?_⟩
  rw [hpath, Path.toText]
  cases folder with
  | nil =>
    rw [List.nil_append, List.intercalate_singleton, hlast]
    exact Text.afterLast_of_not_mem hslash
  | cons first folder =>
    rw [Text.intercalate_concat, List.map_append, List.map_append, hlast, List.append_assoc]
    exact Text.afterLast_cons_mark hslash _

/-- The last name of the address of a page. -/
def addressName (name : Text) : Text := if name = "." then ".." else name ++ ".html"

theorem addressName_injective {name other : Text} (h : addressName name = addressName other) :
    name = other := by
  have hlong : ∀ t : Text, ("..".toList : Text) ≠ t ++ ".html" := by
    intro t heq
    have hlength := congrArg List.length heq
    simp only [List.length_append] at hlength
    change 2 = t.length + 5 at hlength
    omega
  unfold addressName at h
  split at h
  · next hname =>
    split at h
    · next hother => rw [hname, hother]
    · exact absurd h (hlong other)
  · split at h
    · exact absurd h.symm (hlong name)
    · exact List.append_cancel_right h

theorem withExtension_page {path : Path} {name : Text} (hempty : name ≠ [])
    (hlast : path.getLast? = some (name ++ ".md")) :
    path.withExtension "html" = path.dropLast ++ [addressName name] := by
  have hstem := (Path.extension?_eq_md_iff.2 ⟨hempty, hlast⟩).2
  simp only [Path.withExtension, hstem, addressName, List.append_assoc]
  rfl

theorem not_mem_addressName {name : Text} {c : Char} (h : c ∉ name ++ ".md")
    (hc : c ≠ '.' ∧ c ∉ "html".toList) : c ∉ addressName name := by
  have hname : c ∉ name := fun hmem => h (List.mem_append_left _ hmem)
  unfold addressName
  split
  · simpa using hc.1
  · intro hmem
    rcases List.mem_append.1 hmem with hmem | hmem
    · exact hname hmem
    · rcases List.mem_cons.1 hmem with hdot | hmem
      · exact hc.1 hdot
      · exact hc.2 hmem

/-- No name of the path has a slash or a backslash in it. -/
def Plain (file : File) : Prop := ∀ name ∈ file.path, '/' ∉ name ∧ '\\' ∉ name

theorem Plain.afterLast_url {base : Text} {file : File} {entry : Text × Page} (plain : Plain file)
    (h : held? base file = some entry) :
    ∃ page, entry.2.url = base ++ page ∧ Text.afterLast '/' page = addressName entry.1 := by
  obtain ⟨hempty, -, hpage⟩ := held?_eq_some_iff.1 h
  unfold pageOf? at hpage
  split at hpage
  · next hlast =>
    obtain ⟨body, -, hbody⟩ := Option.map_eq_some_iff.1 hpage
    obtain ⟨hslash, hback⟩ := plain _ (List.mem_of_getLast? hlast)
    rw [← hbody]
    exact afterLast_pageUrl base (withExtension_page hempty hlast)
      (not_mem_addressName hslash (by decide)) (not_mem_addressName hback (by decide))
  · cases hpage

theorem name_eq_of_url_eq {base : Text} {file other : File} {entry entry' : Text × Page}
    (plain : Plain file) (plain' : Plain other) (h : held? base file = some entry)
    (h' : held? base other = some entry') (hurl : entry.2.url = entry'.2.url) :
    entry.1 = entry'.1 := by
  obtain ⟨page, heq, hname⟩ := plain.afterLast_url h
  obtain ⟨page', heq', hname'⟩ := plain'.afterLast_url h'
  have hpages : page = page' := List.append_cancel_left (heq.symm.trans (hurl.trans heq'))
  exact addressName_injective (hname.symm.trans (hpages ▸ hname'))

/-! ### Corpora loaded from a tree -/

/-- No two pages have the same address. -/
def Apart (pages : Table Page) : Prop :=
  ∀ entry ∈ pages, ∀ other ∈ pages, entry.2.url = other.2.url → entry = other

theorem ofTree_eq_insertAll {tree : FileTree} {directory base : Text} {path : Path} {corpus : Corpus}
    (hd : tree.directory? directory = some path) (h : ofTree tree directory base = .ok corpus) :
    corpus = insertAll {} (mergeLog {} base (tree.below path)) := by
  have hmerge := merge_eq_insertAll {} tree directory base
  rw [treeLog, hd] at hmerge
  unfold ofTree at h
  split at h
  · next loaded hloaded =>
    rw [hloaded] at hmerge
    cases h
    exact hmerge
  · cases h

theorem apart_of_ofTree {tree : FileTree} {directory base : Text} {path : Path} {corpus : Corpus}
    (wellFormed : tree.WellFormed) (hd : tree.directory? directory = some path)
    (hback : ∀ file ∈ tree.below path, ∀ name ∈ file.path, '\\' ∉ name)
    (h : ofTree tree directory base = .ok corpus) : Apart corpus.pages := by
  have hcorpus := ofTree_eq_insertAll hd h
  have hsound := sound_insertAll (mergeLog {} base (tree.below path))
  rw [← hcorpus] at hsound
  intro entry hentry other hother hurl
  obtain ⟨file, hfile, hheld⟩ := mem_mergeLog (hsound.logged entry hentry)
  obtain ⟨file', hfile', hheld'⟩ := mem_mergeLog (hsound.logged other hother)
  have hplain : ∀ file ∈ tree.below path, Plain file := fun file hfile name hname =>
    ⟨wellFormed.named_below path file hfile name hname, hback file hfile name hname⟩
  have hkey : entry.1 = other.1 :=
    name_eq_of_url_eq (hplain file hfile) (hplain file' hfile') hheld hheld' hurl
  exact List.inj_on_of_nodup_map hsound.pages hentry hother hkey

theorem bodyAt?_of_apart {corpus : Corpus} (h : Apart corpus.pages) {name : Text} {page : Page}
    (hmem : (name, page) ∈ corpus.pages) :
    corpus.bodyAt? page.url = if page.body.isEmpty then none else some page.body := by
  unfold bodyAt?
  -- Whatever the search comes upon first, only the page itself has its address.
  by_cases hbody : page.body.isEmpty = true
  · have hnone : corpus.pages.find? (fun entry => entry.2.url = page.url && !entry.2.body.isEmpty) =
        none := by
      rw [List.find?_eq_none]
      intro entry hentry hfound
      obtain ⟨hurl, hsome⟩ := Bool.and_eq_true_iff.1 hfound
      have heq := h entry hentry (name, page) hmem (of_decide_eq_true hurl)
      rw [heq, hbody] at hsome
      cases hsome
    rw [hnone, if_pos hbody]
    rfl
  · have hpage : (decide (page.url = page.url) && !page.body.isEmpty) = true := by simpa using hbody
    cases hfind : corpus.pages.find? (fun entry => entry.2.url = page.url && !entry.2.body.isEmpty) with
    | none => exact absurd hpage (List.find?_eq_none.1 hfind (name, page) hmem)
    | some entry =>
      have hfound := List.find?_some hfind
      obtain ⟨hurl, -⟩ := Bool.and_eq_true_iff.1 hfound
      have heq := h entry (List.mem_of_find?_eq_some hfind) (name, page) hmem (of_decide_eq_true hurl)
      rw [heq, if_neg hbody]
      rfl

/-- The same entries, in any order. -/
structure Reorders (corpus other : Corpus) : Prop where
  pages : corpus.pages.Perm other.pages
  folded : corpus.folded.Perm other.folded

theorem Reorders.lookup? {corpus other : Corpus} {log : List (Text × Page)}
    (h : Reorders corpus other) (sound : Sound other log) (name : Text) :
    corpus.lookup? name = other.lookup? name := by
  simp only [Corpus.lookup?, Table.get?_perm sound.pages h.pages,
    Table.get?_perm sound.folded h.folded]

theorem Reorders.apart {corpus other : Corpus} (h : Reorders corpus other)
    (apart : Apart other.pages) : Apart corpus.pages := by
  intro entry hentry entry' hentry'
  exact apart entry (h.pages.mem_iff.1 hentry) entry' (h.pages.mem_iff.1 hentry')

theorem exists_mem_of_lookup? {corpus : Corpus} {log : List (Text × Page)} (sound : Sound corpus log)
    {name : Text} {page : Page} (h : corpus.lookup? name = some page) :
    ∃ known, (known, page) ∈ corpus.pages := by
  simp only [Corpus.lookup?] at h
  split at h
  · next found hfound =>
    cases h
    exact ⟨_, (Table.get?_eq_some_iff sound.pages).1 hfound⟩
  · obtain ⟨known, -, hknown⟩ := Option.bind_eq_some_iff.1 h
    exact ⟨known, (Table.get?_eq_some_iff sound.pages).1 hknown⟩

end Corpus

/-! ### Help and tooltips -/

theorem HelpSources.help_of_rule (sources : HelpSources) {name : Text}
    (hat : Text.startsWith "@" name = false) (hpercent : Text.startsWith "%" name = false) :
    sources.help name none = sources.ruleHelp name := by
  have hvariable : variablePlugin? name = none := by
    rw [variablePlugin?, Text.dropLead?_of_not_startsWith hpercent]
    rfl
  simp only [help, Text.dropLead?_of_not_startsWith hat, Option.bind_none, hvariable]

/- A tooltip is shown for a text only, and a page of help has one only if it is not empty. -/
theorem Assistant.hover?_of_help {assistant : Assistant} {line : Text} {cursor : Nat}
    {target : Line.Target} {page : Page} (htarget : Line.target? line cursor = some target)
    (h : assistant.helpSources.help target.name none =
      ⟨.url page.url, if page.body.isEmpty then none else some page.body⟩) :
    assistant.hover? line cursor =
      if page.body.isEmpty then none
      else some ⟨tooltipMarkup target.name page.url page.body, target.start, target.stop⟩ := by
  simp only [hover?, htarget, h]
  by_cases hbody : page.body.isEmpty = true
  · simp only [hbody, if_true]
  · simp only [hbody, Bool.false_eq_true, if_false]

/-- The page of the rule under the cursor is the one that help and the tooltip show, whatever the
order in which the corpus of a tree is searched. The tooltip is a heading with the name, a link to the
page and its body. -/
theorem Assistant.tooltip_of_own_page (assistant : Assistant) {tree : FileTree}
    {directory base : Text} {path : Path} {corpus : Corpus} {line : Text} {cursor : Nat}
    {target : Line.Target} {page : Page} (wellFormed : tree.WellFormed)
    (hd : tree.directory? directory = some path)
    (hback : ∀ file ∈ tree.below path, ∀ name ∈ file.path, '\\' ∉ name)
    (hload : Corpus.ofTree tree directory base = .ok corpus)
    (hcorpus : assistant.corpus.Reorders corpus)
    (htarget : Line.target? line cursor = some target)
    (hat : Text.startsWith "@" target.name = false)
    (hpercent : Text.startsWith "%" target.name = false)
    (hpage : corpus.lookup? (ruleName target.name) = some page) :
    assistant.helpSources.help target.name none =
        ⟨.url page.url, if page.body.isEmpty then none else some page.body⟩ ∧
      assistant.hover? line cursor =
        if page.body.isEmpty then none
        else some {
          markup := ("# " : Text) ++ target.name ++ (" \n [" : Text) ++ page.url ++ ("](" : Text) ++
            page.url ++ (")\n\n" : Text) ++ page.body
          start := target.start
          stop := target.stop } := by
  have hsound := Corpus.sound_insertAll (Corpus.mergeLog {} base (tree.below path))
  rw [← Corpus.ofTree_eq_insertAll hd hload] at hsound
  have hapart := hcorpus.apart (Corpus.apart_of_ofTree wellFormed hd hback hload)
  have hlookup : assistant.corpus.lookup? (ruleName target.name) = some page :=
    (hcorpus.lookup? hsound _).trans hpage
  obtain ⟨known, hknown⟩ := Corpus.exists_mem_of_lookup? hsound hpage
  have hmem : (known, page) ∈ assistant.corpus.pages := hcorpus.pages.mem_iff.2 hknown
  have hhelp : assistant.helpSources.help target.name none =
      ⟨.url page.url, if page.body.isEmpty then none else some page.body⟩ := by
    rw [HelpSources.help_of_rule _ hat hpercent, HelpSources.ruleHelp]
    simp only [helpSources, hlookup, HelpSources.helpAt, Corpus.bodyAt?_of_apart hapart hmem]
  exact ⟨hhelp, hover?_of_help htarget hhelp⟩

/- The page at the top has no body, so the tooltip shows the one further down, and the pages are
searched in the reverse of their order. -/
theorem Assistant.tooltip_of_nested_page :
    let tree := ((({} : FileTree).write (Path.ofText "docs/file.md") [0x66]).write
      (Path.ofText "docs/proxy.md") []).write (Path.ofText "docs/a/proxy.md") [0x61]
    let corpus : Corpus := ⟨[("file", ⟨"help/file.html", "f"⟩), ("proxy", ⟨"help/a/proxy.html", "a"⟩)],
      [("file", "file"), ("proxy", "proxy")]⟩
    let assistant : Assistant := { Assistant.ofSettings {} Plugin.Directory.empty with
      corpus := ⟨corpus.pages.reverse, corpus.folded.reverse⟩ }
    Corpus.ofTree tree "docs" "help/" = .ok corpus ∧
      assistant.hover? "x proxy://y" 4 =
        some ⟨"# proxy \n [help/a/proxy.html](help/a/proxy.html)\n\na", 2, 11⟩ := by
  intro tree corpus assistant
  have wellFormed : tree.WellFormed := ((FileTree.wellFormed_empty.write ..).write ..).write ..
  have hd : tree.directory? "docs" = some [("docs" : Text)] := by decide
  have hload : Corpus.ofTree tree "docs" "help/" = .ok corpus := by rfl
  have hcorpus : assistant.corpus.Reorders corpus := ⟨List.reverse_perm _, List.reverse_perm _⟩
  have htarget : Line.target? "x proxy://y" 4 = some ⟨"proxy", "proxy://y", 2, 11⟩ := by decide
  have hpage : corpus.lookup? (ruleName "proxy") = some ⟨"help/a/proxy.html", "a"⟩ := by decide
  exact ⟨hload, (tooltip_of_own_page assistant wellFormed hd (by decide) hload hcorpus htarget
    (by decide) (by decide) hpage).2⟩

end RuleHints
