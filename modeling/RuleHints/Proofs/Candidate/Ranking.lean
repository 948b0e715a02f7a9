import Mathlib.Data.List.Sort
import RuleHints.Candidate.Build
import RuleHints.Proofs.Text.Occurrence

/-!
# The order of protocols

For a keyword, the protocols whose lower-case name holds it come first, the earlier it stands in the
name the better, and those that hold it at the same place in the order of the registry. Then comes
`socks://` where it is found as a proxy, and then the synonyms that were not found as they are. A list
that is too long loses the end of what comes before the synonyms.

The order is said here without the sorting: by the place of the keyword, and by what is left of the
registry at each place.
-/

namespace RuleHints.Protocol

/-! ### The place of a keyword in a protocol -/

/-- The keyword stands in the lower-case name. -/
def Matches (keyword protocol : Text) : Prop := keyword <:+: Text.lower protocol

/-- The keyword first stands in the lower-case name behind this many bytes. -/
def MatchesAt (keyword protocol : Text) (bytes : Nat) : Prop :=
  ∃ before, Text.OccursFirst keyword (Text.lower protocol) before ∧ Text.byteSize before = bytes

theorem rank?_isSome {keyword protocol : Text} :
    (rank? keyword protocol).isSome = true ↔ Matches keyword protocol := by
  rw [Matches, ← Text.occurs_iff, rank?, Option.isSome_map, Text.occurs]

theorem matchesAt_of_rank? {keyword protocol : Text} {bytes : Nat}
    (h : rank? keyword protocol = some bytes) : MatchesAt keyword protocol bytes := by
  obtain ⟨column, hcolumn, rfl⟩ := Option.map_eq_some_iff.1 h
  obtain ⟨before, rfl, hfirst⟩ := Text.exists_occursFirst hcolumn
  have hprefix : before <+: Text.lower protocol := (List.prefix_append ..).trans hfirst.occurs
  refine ⟨before, hfirst, ?_⟩
  rw [← List.prefix_iff_eq_take.1 hprefix]

theorem rank?_eq_some {keyword protocol : Text} {bytes : Nat} :
    rank? keyword protocol = some bytes ↔ MatchesAt keyword protocol bytes := by
  refine ⟨matchesAt_of_rank?, ?_⟩
  rintro ⟨before, hfirst, rfl⟩
  obtain ⟨rank, hrank⟩ := Option.isSome_iff_exists.1 (rank?_isSome.2 hfirst.isInfix)
  obtain ⟨other, hother, hbytes⟩ := matchesAt_of_rank? hrank
  rw [hrank, ← hbytes, hfirst.unique hother]

instance (keyword protocol : Text) : Decidable (Matches keyword protocol) :=
  decidable_of_iff _ rank?_isSome

instance (keyword protocol : Text) (bytes : Nat) : Decidable (MatchesAt keyword protocol bytes) :=
  decidable_of_iff _ rank?_eq_some

/-- `socks://` does not hold the keyword but is found as a proxy. -/
def IsAlias (keyword protocol : Text) : Prop :=
  protocol = "socks://" ∧ keyword <:+: ("proxy" : Text) ∧ ¬Matches keyword protocol

instance (keyword protocol : Text) : Decidable (IsAlias keyword protocol) :=
  decidable_of_iff (protocol = socks ∧ Text.occurs keyword "proxy" = true ∧ ¬Matches keyword protocol)
    (by rw [Text.occurs_iff]; rfl)

/-- The keyword finds the protocol, if the registry has it. -/
def Finds (keyword protocol : Text) : Prop := Matches keyword protocol ∨ IsAlias keyword protocol

instance (keyword protocol : Text) : Decidable (Finds keyword protocol) :=
  inferInstanceAs (Decidable (_ ∨ _))

/-! ### Sorting -/

/-- Not behind another entry. -/
def RankLe (a b : Nat × Text) : Prop := a.1 ≤ b.1

instance : DecidableRel RankLe := fun a b => Nat.decLe a.1 b.1

instance : Std.Total RankLe := ⟨fun a b => Nat.le_total a.1 b.1⟩

instance : IsTrans (Nat × Text) RankLe := ⟨fun _ _ _ => Nat.le_trans⟩

theorem insertByRank_eq (entry : Nat × Text) (entries : List (Nat × Text)) :
    insertByRank entry entries = entries.orderedInsert RankLe entry := by
  induction entries with
  | nil => rfl
  | cons other rest ih =>
    rw [insertByRank, List.orderedInsert, ih]
    rfl

theorem sortByRank_eq (entries : List (Nat × Text)) :
    sortByRank entries = entries.insertionSort RankLe := by
  rw [sortByRank, List.insertionSort]
  congr 1
  funext entry rest
  exact insertByRank_eq entry rest

theorem sortByRank_perm (entries : List (Nat × Text)) : (sortByRank entries).Perm entries := by
  rw [sortByRank_eq]
  exact List.perm_insertionSort RankLe entries

theorem sortByRank_pairwise (entries : List (Nat × Text)) :
    (sortByRank entries).Pairwise RankLe := by
  rw [sortByRank_eq]
  exact List.pairwise_insertionSort RankLe entries

/- Entries of one rank are sorted as they stand, so they are in the sorted list in this order, and it
has no others of that rank. -/
theorem filter_sortByRank (entries : List (Nat × Text)) (rank : Nat) :
    (sortByRank entries).filter (·.1 = rank) = entries.filter (·.1 = rank) := by
  have hequal : (entries.filter (·.1 = rank)).Pairwise RankLe := by
    refine List.pairwise_of_forall_mem_list fun a ha b hb => ?_
    have hrank : a.1 = rank ∧ b.1 = rank := by
      simpa using And.intro (List.mem_filter.1 ha).2 (List.mem_filter.1 hb).2
    exact Nat.le_of_eq (hrank.1.trans hrank.2.symm)
  have hsub : (entries.filter (·.1 = rank)).Sublist (sortByRank entries) := by
    rw [sortByRank_eq]
    exact List.sublist_insertionSort hequal List.filter_sublist
  have hfilter := hsub.filter (·.1 = rank)
  rw [List.filter_filter] at hfilter
  simp only [Bool.and_self] at hfilter
  have hlength := ((sortByRank_perm entries).filter (·.1 = rank)).length_eq
  exact (hfilter.eq_of_length hlength.symm).symm

/-! ### Ranking -/

/-- The protocols of the list that match the keyword, in the order of their places, and in the order of
the list where these are equal. -/
structure IsRanked (keyword : Text) (protocols order : List Text) : Prop where
  matching : ∀ p ∈ order, Matches keyword p
  ascending : order.Pairwise fun p q => ∀ i j, MatchesAt keyword p i → MatchesAt keyword q j → i ≤ j
  stable : ∀ i, order.filter (MatchesAt keyword · i) = protocols.filter (MatchesAt keyword · i)

section

variable (keyword : Text) (protocols : List Text)

/-- The protocols with their places, before they are sorted. -/
def placed : List (Nat × Text) := protocols.filterMap fun p => (rank? keyword p).map (·, p)

variable {keyword protocols}

theorem matchesAt_of_mem_placed {entry : Nat × Text} (h : entry ∈ placed keyword protocols) :
    MatchesAt keyword entry.2 entry.1 := by
  obtain ⟨p, _, hp⟩ := List.mem_filterMap.1 h
  obtain ⟨rank, hrank, rfl⟩ := Option.map_eq_some_iff.1 hp
  exact rank?_eq_some.1 hrank

theorem MatchesAt.unique {protocol : Text} {i j : Nat} (hi : MatchesAt keyword protocol i)
    (hj : MatchesAt keyword protocol j) : i = j :=
  Option.some.inj ((rank?_eq_some.2 hi).symm.trans (rank?_eq_some.2 hj))

theorem map_placed : (placed keyword protocols).map (·.2) = protocols.filter (Matches keyword) := by
  induction protocols with
  | nil => rfl
  | cons p protocols ih =>
    cases hrank : rank? keyword p with
    | none =>
      have hno : ¬Matches keyword p := by simp [← rank?_isSome, hrank]
      rw [placed, List.filterMap_cons_none (by rw [hrank]; rfl),
        List.filter_cons_of_neg (by simpa using hno)]
      exact ih
    | some rank =>
      have hyes : Matches keyword p := by simp [← rank?_isSome, hrank]
      rw [placed, List.filterMap_cons_some (by rw [hrank]; rfl),
        List.filter_cons_of_pos (by simpa using hyes)]
      exact congrArg (p :: ·) ih

/- Among entries with their true places, the places select the protocols. -/
theorem filter_map_placed {entries : List (Nat × Text)}
    (h : ∀ entry ∈ entries, MatchesAt keyword entry.2 entry.1) (bytes : Nat) :
    (entries.map (·.2)).filter (MatchesAt keyword · bytes) =
      (entries.filter (·.1 = bytes)).map (·.2) := by
  rw [List.filter_map]
  congr 1
  refine List.filter_congr fun entry hentry => decide_eq_decide.2 ?_
  refine ⟨fun hbytes => (h entry hentry).unique hbytes, ?_⟩
  rintro rfl
  exact h entry hentry

theorem MatchesAt.matches {protocol : Text} {bytes : Nat} (h : MatchesAt keyword protocol bytes) :
    Matches keyword protocol := by
  obtain ⟨before, hfirst, _⟩ := h
  exact hfirst.isInfix

theorem ranked_perm : (ranked keyword protocols).Perm (protocols.filter (Matches keyword)) := by
  rw [← map_placed]
  exact (sortByRank_perm (placed keyword protocols)).map (·.2)

theorem isRanked_ranked : IsRanked keyword protocols (ranked keyword protocols) := by
  have hplaces : ∀ entry ∈ sortByRank (placed keyword protocols),
      MatchesAt keyword entry.2 entry.1 := by
    intro entry hentry
    exact matchesAt_of_mem_placed ((sortByRank_perm _).mem_iff.1 hentry)
  refine ⟨?_, ?_, ?_⟩
  · intro p hp
    simpa using (List.mem_filter.1 (ranked_perm.mem_iff.1 hp)).2
  · show ((sortByRank (placed keyword protocols)).map (·.2)).Pairwise _
    rw [List.pairwise_map]
    refine (sortByRank_pairwise _).imp_of_mem fun {a b} ha hb hle i j hi hj => ?_
    rw [hi.unique (hplaces a ha), hj.unique (hplaces b hb)]
    exact hle
  · intro bytes
    calc (ranked keyword protocols).filter (MatchesAt keyword · bytes)
      _ = ((sortByRank (placed keyword protocols)).filter (·.1 = bytes)).map (·.2) :=
        filter_map_placed hplaces bytes
      _ = ((placed keyword protocols).filter (·.1 = bytes)).map (·.2) := by rw [filter_sortByRank]
      _ = ((placed keyword protocols).map (·.2)).filter (MatchesAt keyword · bytes) :=
        (filter_map_placed (fun _ => matchesAt_of_mem_placed) bytes).symm
      _ = protocols.filter (MatchesAt keyword · bytes) := by
        rw [map_placed, List.filter_filter]
        refine List.filter_congr fun p _ => ?_
        have hmatch : MatchesAt keyword p bytes → Matches keyword p := MatchesAt.matches
        simpa using hmatch

/-! ### What is found -/

theorem rank?_isNone {protocol : Text} :
    (rank? keyword protocol).isNone = true ↔ ¬Matches keyword protocol := by
  rw [← rank?_isSome, Bool.not_eq_true, Option.isSome_eq_false_iff]

theorem aliased_eq : aliased keyword protocols = protocols.filter (IsAlias keyword) := by
  unfold aliased
  split
  · next hproxy =>
    refine List.filter_congr fun p _ => ?_
    rw [Bool.eq_iff_iff, Bool.and_eq_true, decide_eq_true_eq, decide_eq_true_eq, rank?_isNone]
    refine ⟨fun h => ⟨h.1, Text.occurs_iff.1 hproxy, h.2⟩, fun h => ⟨h.1, h.2.2⟩⟩
  · next hproxy =>
    refine (List.filter_eq_nil_iff.2 fun p _ => ?_).symm
    rw [decide_eq_true_eq]
    exact fun h => hproxy (Text.occurs_iff.2 h.2.1)

/- What is found consists of what matches and of what does not. -/
theorem found_perm :
    (ranked keyword protocols ++ aliased keyword protocols).Perm (protocols.filter (Finds keyword)) := by
  have hmatch : (protocols.filter (Finds keyword)).filter (Matches keyword) =
      protocols.filter (Matches keyword) := by
    rw [List.filter_filter]
    refine List.filter_congr fun p _ => ?_
    have himp : Matches keyword p → Finds keyword p := Or.inl
    simpa using himp
  have halias : (protocols.filter (Finds keyword)).filter (fun p => !decide (Matches keyword p)) =
      aliased keyword protocols := by
    rw [aliased_eq, List.filter_filter]
    refine List.filter_congr fun p _ => ?_
    rw [Bool.eq_iff_iff, Bool.and_eq_true, Bool.not_eq_true', decide_eq_false_iff_not, decide_eq_true_eq,
      decide_eq_true_eq]
    exact ⟨fun h => h.2.resolve_left h.1, fun h => ⟨h.2.2, Or.inr h⟩⟩
  have hparts := List.filter_append_perm (Matches keyword ·) (protocols.filter (Finds keyword))
  rw [hmatch, halias] at hparts
  exact (ranked_perm.append_right _).trans hparts

theorem mem_found {p : Text} : p ∈ ranked keyword protocols ++ aliased keyword protocols ↔
    p ∈ protocols ∧ Finds keyword p := by
  rw [found_perm.mem_iff, List.mem_filter, decide_eq_true_eq]

/-! ### The list -/

variable (keyword protocols) in
/-- The synonyms that are not found as they are. -/
def unfound : List Text :=
  (synonymsFor keyword).filter fun p => ¬(p ∈ protocols ∧ Finds keyword p)

/- The rest of the list leaves room for a tail. -/
theorem take_append_tail (l tail : List Text) (cap : Nat) :
    (l.take (cap - tail.length) ++ tail).take cap = l.take (cap - tail.length) ++ tail.take cap := by
  have hlength : (l.take (cap - tail.length)).length ≤ cap - tail.length := List.length_take_le ..
  rw [List.take_append, List.take_of_length_le (by omega)]
  congr 1
  rcases Nat.le_total tail.length cap with hle | hle
  · rw [List.take_of_length_le (by omega), List.take_of_length_le hle]
  · have hnone : cap - tail.length = 0 := by omega
    rw [hnone, List.take_zero, List.length_nil, Nat.sub_zero]

theorem matching_eq (cap : Nat) : matching protocols cap keyword =
    (ranked keyword protocols ++ protocols.filter (IsAlias keyword)).take
        (cap - (unfound keyword protocols).length) ++ (unfound keyword protocols).take cap := by
  have hextra : (synonymsFor keyword).filter
      (fun p => !(ranked keyword protocols ++ aliased keyword protocols).contains p) =
        unfound keyword protocols := by
    refine List.filter_congr fun p _ => ?_
    rw [Bool.eq_iff_iff, Bool.not_eq_true', decide_eq_true_eq, ← mem_found, ← List.contains_iff_mem,
      Bool.not_eq_true]
  rw [← aliased_eq, matching, hextra, take_append_tail]

variable (keyword) in
theorem synonymsFor_eq :
    synonymsFor keyword = [] ∨ ∃ row ∈ synonyms, synonymsFor keyword = row.protocols := by
  unfold synonymsFor
  cases hrow : synonyms.find? (·.appliesTo keyword) with
  | none => exact Or.inl rfl
  | some row => exact Or.inr ⟨row, List.mem_of_find?_eq_some hrow, rfl⟩

theorem synonymsFor_nodup : (synonymsFor keyword).Nodup := by
  have hrows : ∀ row ∈ synonyms, row.protocols.Nodup := by decide
  rcases synonymsFor_eq keyword with hnone | ⟨row, hrow, hsome⟩
  · rw [hnone]
    exact List.nodup_nil
  · rw [hsome]
    exact hrows row hrow

theorem socks_not_mem_synonymsFor : socks ∉ synonymsFor keyword := by
  have hrows : ∀ row ∈ synonyms, socks ∉ row.protocols := by decide
  rcases synonymsFor_eq keyword with hnone | ⟨row, hrow, hsome⟩
  · rw [hnone]
    exact List.not_mem_nil
  · rw [hsome]
    exact hrows row hrow

theorem mem_unfound {p : Text} : p ∈ unfound keyword protocols ↔
    p ∈ synonymsFor keyword ∧ ¬(p ∈ protocols ∧ Finds keyword p) := by
  rw [unfound, List.mem_filter, decide_eq_true_eq]

theorem mem_matching {cap : Nat} {p : Text} (h : p ∈ matching protocols cap keyword) :
    p ∈ protocols ∧ Finds keyword p ∨ p ∈ synonymsFor keyword := by
  rw [matching_eq, ← aliased_eq] at h
  rcases List.mem_append.1 h with hfound | hextra
  · exact Or.inl (mem_found.1 (List.mem_of_mem_take hfound))
  · exact Or.inr (mem_unfound.1 (List.mem_of_mem_take hextra)).1

section

variable {cap : Nat}
  (hroom : (protocols.filter (Matches keyword)).length + (protocols.filter (IsAlias keyword)).length +
    (unfound keyword protocols).length ≤ cap)

include hroom

/- With room for all of it, nothing is cut. -/
theorem matching_of_room : matching protocols cap keyword =
    ranked keyword protocols ++ aliased keyword protocols ++ unfound keyword protocols := by
  have hfound : (ranked keyword protocols ++ aliased keyword protocols).length ≤
      cap - (unfound keyword protocols).length := by
    rw [List.length_append, ranked_perm.length_eq, aliased_eq]
    omega
  rw [matching_eq, ← aliased_eq, List.take_of_length_le hfound, List.take_of_length_le (by omega)]

theorem count_matching {p : Text} (hp : p ∈ protocols) (hfinds : Finds keyword p) :
    (matching protocols cap keyword).count p = protocols.count p := by
  have hextra : p ∉ unfound keyword protocols := fun hmem => (mem_unfound.1 hmem).2 ⟨hp, hfinds⟩
  rw [matching_of_room hroom, List.count_append, List.count_eq_zero.2 hextra, found_perm.count_eq,
    List.count_filter (by simpa using hfinds), Nat.add_zero]

theorem synonym_mem_matching {p : Text} (hp : p ∈ synonymsFor keyword) :
    p ∈ matching protocols cap keyword := by
  rw [matching_of_room hroom, List.mem_append, mem_found, mem_unfound]
  by_cases hfound : p ∈ protocols ∧ Finds keyword p
  · exact Or.inl hfound
  · exact Or.inr ⟨hp, hfound⟩

end

theorem nodup_matching (h : protocols.Nodup) (cap : Nat) : (matching protocols cap keyword).Nodup := by
  have hfound : (ranked keyword protocols ++ aliased keyword protocols).Nodup :=
    found_perm.nodup_iff.2 (h.filter _)
  have hextra : (unfound keyword protocols).Nodup := synonymsFor_nodup.filter _
  rw [matching_eq, ← aliased_eq, List.nodup_append]
  refine ⟨hfound.sublist (List.take_sublist ..), hextra.sublist (List.take_sublist ..), ?_⟩
  rintro p hp _ hq rfl
  exact (mem_unfound.1 (List.mem_of_mem_take hq)).2 (mem_found.1 (List.mem_of_mem_take hp))

/- A synonym that does not match is added behind what is found, and the cut leaves room for it. -/
theorem synonym_mem_of_not_matches {cap : Nat} (hcap : (synonymsFor keyword).length ≤ cap) {p : Text}
    (hp : p ∈ synonymsFor keyword) (hno : ¬(p ∈ protocols ∧ Matches keyword p)) :
    p ∈ matching protocols cap keyword := by
  have hextra : p ∈ unfound keyword protocols := by
    refine mem_unfound.2 ⟨hp, ?_⟩
    rintro ⟨hmem, hmatch | halias⟩
    · exact hno ⟨hmem, hmatch⟩
    · exact socks_not_mem_synonymsFor (halias.1 ▸ hp)
  have hlength : (unfound keyword protocols).length ≤ cap :=
    Nat.le_trans (List.length_filter_le ..) hcap
  rw [matching_eq, List.take_of_length_le hlength]
  exact List.mem_append_right _ hextra

theorem ranked_mem_matching {cap : Nat} {p : Text}
    (h : p ∈ (ranked keyword protocols).take (cap - (unfound keyword protocols).length)) :
    p ∈ matching protocols cap keyword := by
  rw [matching_eq, List.take_append]
  exact List.mem_append_left _ (List.mem_append_left _ h)

end

end RuleHints.Protocol

namespace RuleHints.Sources

open Protocol

theorem map_insertText_ofProtocol (protocols : List Text) :
    (protocols.map Candidate.ofProtocol).map (·.insertText) = protocols := by
  rw [List.map_map]
  exact List.map_id' protocols

section

variable {sources : Sources} {keyword : Text} (henabled : sources.protocolsEnabled = true)
  (hkeyword : keyword ≠ [])

include henabled hkeyword

theorem protocolCandidates_eq : sources.protocolCandidates keyword =
    (matching sources.registry.protocols sources.limits.candidates (Text.lower keyword)).map
      Candidate.ofProtocol := by
  rw [protocolCandidates, if_pos henabled, offered, if_neg (by simpa using hkeyword)]

theorem map_insertText_protocolCandidates :
    (sources.protocolCandidates keyword).map (·.insertText) =
      matching sources.registry.protocols sources.limits.candidates (Text.lower keyword) := by
  rw [protocolCandidates_eq henabled hkeyword, map_insertText_ofProtocol]

end

/-- What is offered for a keyword. Everything that is offered matches the keyword, is `socks://` for a
part of `proxy`, or is a synonym; where there is room for all of these, nothing is missing. The
matching protocols come in the order of the place of the keyword, then `socks://`, then the synonyms,
and what comes before the synonyms is cut at its end. Nothing is offered twice that the registry does
not list twice. -/
theorem protocols_ranked (sources : Sources) (keyword : Text)
    (henabled : sources.protocolsEnabled = true) (hkeyword : keyword ≠ []) :
    let needle := Text.lower keyword
    let protocols := sources.registry.protocols
    let cap := sources.limits.candidates
    let offered := (sources.protocolCandidates keyword).map (·.insertText)
    sources.protocolCandidates keyword = offered.map Candidate.ofProtocol ∧
    (∀ p ∈ offered, p ∈ protocols ∧ Matches needle p ∨
      p ∈ protocols ∧ p = "socks://" ∧ needle <:+: ("proxy" : Text) ∨ p ∈ synonymsFor needle) ∧
    ((protocols.filter (Matches needle)).length + (protocols.filter (IsAlias needle)).length +
        (unfound needle protocols).length ≤ cap →
      (∀ p ∈ protocols, Matches needle p ∨ IsAlias needle p → offered.count p = protocols.count p) ∧
      ∀ p ∈ synonymsFor needle, p ∈ offered) ∧
    (∃ matched, IsRanked needle protocols matched ∧
      offered = (matched ++ protocols.filter (IsAlias needle)).take
        (cap - (unfound needle protocols).length) ++ (unfound needle protocols).take cap) ∧
    (protocols.Nodup → offered.Nodup) := by
  intro needle protocols cap offered
  have hoffered : offered = matching protocols cap needle :=
    map_insertText_protocolCandidates henabled hkeyword
  rw [hoffered]
  refine ⟨protocolCandidates_eq henabled hkeyword, ?_, ?_, ?_, fun h => nodup_matching h cap⟩
  · intro p hp
    rcases mem_matching hp with ⟨hmem, hmatch | halias⟩ | hsynonym
    · exact Or.inl ⟨hmem, hmatch⟩
    · exact Or.inr (Or.inl ⟨hmem, halias.1, halias.2.1⟩)
    · exact Or.inr (Or.inr hsynonym)
  · intro hroom
    exact ⟨fun p hp hfinds => count_matching hroom hp hfinds, fun p hp => synonym_mem_matching hroom hp⟩
  · exact ⟨ranked needle protocols, isRanked_ranked, matching_eq cap⟩

/- Two protocols hold the keyword at the same place, `proxy` holds it too, and there is a synonym. With
one place less, `socks://` is cut off and the synonym is not. -/
theorem protocols_for_capital_x :
    let protocols : List Text := ["socks://", "exit://", "axe://", "Xhost://"]
    let sources (cap : Nat) : Sources :=
      { registry := ⟨protocols⟩, plugins := .empty, limits := { candidates := cap } }
    let offered (cap : Nat) : List Text := ((sources cap).protocolCandidates "X").map (·.insertText)
    ((sources 5).protocolsEnabled = true ∧ ("X" : Text) ≠ []) ∧
    offered 5 = (["Xhost://", "exit://", "axe://", "socks://", "xproxy://"] : List Text) ∧
    (offered 5).count ("socks://" : Text) = 1 ∧ ("xproxy://" : Text) ∈ offered 5 ∧ (offered 5).Nodup ∧
    offered 4 = (["Xhost://", "exit://", "axe://", "xproxy://"] : List Text) ∧
    ∃ matched, IsRanked "x" protocols matched ∧
      offered 4 = (matched ++ (["socks://"] : List Text)).take 3 ++ (["xproxy://"] : List Text) := by
  intro protocols sources offered
  obtain ⟨_, _, hcomplete, _, hnodup⟩ := protocols_ranked (sources 5) "X" rfl (by decide)
  obtain ⟨_, _, _, hcut, _⟩ := protocols_ranked (sources 4) "X" rfl (by decide)
  obtain ⟨hcount, hsynonym⟩ := hcomplete (by decide)
  exact ⟨⟨rfl, by decide⟩, by decide, hcount "socks://" (by decide) (by decide),
    hsynonym "xproxy://" (by decide), hnodup (by decide), by decide, hcut⟩

/-! ### Synonyms and the cut -/

/-- The synonyms of a keyword are not cut off, however many protocols match it, unless they are among
these or there is no room for the synonyms alone. A synonym that matches the keyword itself has its
rank, and is there if its rank is among those that the other synonyms leave room for. Without a
keyword there are no synonyms. -/
theorem synonyms_kept (sources : Sources) (keyword : Text)
    (henabled : sources.protocolsEnabled = true) :
    let needle := Text.lower keyword
    let protocols := sources.registry.protocols
    let cap := sources.limits.candidates
    let offered := (sources.protocolCandidates keyword).map (·.insertText)
    (keyword ≠ [] →
      ((synonymsFor needle).length ≤ cap →
        ∀ p ∈ synonymsFor needle, ¬(p ∈ protocols ∧ Matches needle p) → p ∈ offered) ∧
      ∃ matched, IsRanked needle protocols matched ∧
        ∀ p ∈ synonymsFor needle, p ∈ matched.take (cap - (unfound needle protocols).length) →
          p ∈ offered) ∧
    (keyword = [] → offered = protocols.take cap) := by
  intro needle protocols cap offered
  constructor
  · intro hkeyword
    have hoffered : offered = matching protocols cap needle :=
      map_insertText_protocolCandidates henabled hkeyword
    rw [hoffered]
    refine ⟨fun hcap p hp hno => synonym_mem_of_not_matches hcap hp hno, ?_⟩
    exact ⟨ranked needle protocols, isRanked_ranked, fun p _ => ranked_mem_matching⟩
  · rintro rfl
    change (sources.protocolCandidates []).map (·.insertText) = _
    rw [protocolCandidates, if_pos henabled, map_insertText_ofProtocol]
    rfl

/- The synonym that matches is the first in rank, and room is left for the other one. -/
theorem upstream_synonyms_for_p :
    let protocols : List Text := ["proxy://", "pac://", "pipe://", "plugin://"]
    let sources : Sources :=
      { registry := ⟨protocols⟩, plugins := .empty, limits := { candidates := 2 } }
    let offered := (sources.protocolCandidates "p").map (·.insertText)
    (sources.protocolsEnabled = true ∧ synonymsFor "p" = (["proxy://", "xproxy://"] : List Text)) ∧
      ("xproxy://" : Text) ∈ offered ∧ offered = (["proxy://", "xproxy://"] : List Text) := by
  intro protocols sources offered
  obtain ⟨hkept, _⟩ := synonyms_kept sources "p" rfl
  obtain ⟨hadded, _⟩ := hkept (by decide)
  exact ⟨⟨rfl, by decide⟩, hadded (by decide) "xproxy://" (by decide) (by decide), by decide⟩

/- Without a keyword the list is the registry. With one, a synonym that is in the registry and matches is
cut off like any other match. -/
theorem synonyms_cut_off :
    let sources (registry : Registry) (cap : Nat) : Sources :=
      { registry, plugins := .empty, limits := { candidates := cap } }
    let offered (sources : Sources) (keyword : Text) : List Text :=
      (sources.protocolCandidates keyword).map (·.insertText)
    (synonymsFor (Text.lower []) = (["proxy://", "xproxy://"] : List Text) ∧
      ("proxy://" : Text) ∉ offered (sources .builtin 2) []) ∧
    (synonymsFor (Text.lower "csp") = (["disable://csp"] : List Text) ∧
      ("disable://csp" : Text) ∉ offered (sources ⟨["csp0://", "disable://csp"]⟩ 1) "csp") := by
  decide

end RuleHints.Sources
