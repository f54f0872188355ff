/-
  RecordMapper.Proofs.Query.Aliasing
  ────────────────────────────────
  **THE SEARCH FOR AN ALIAS.**

  The alias of a table is the one that was wanted for it, or else the first numbered one
  that is free.  The search tries one candidate after the other and knows no bound; wanted
  aliases may look like numbered ones, so the candidates that are taken need not be the ones
  that were numbered before.  It ends because the numbered aliases are all different: of one
  more of them than there are aliases, one is free.

  A table is always given an alias that no table has, so all of them stay different, whatever
  is joined and in whichever order.

  Main result: `alias_search_ends_free`.
-/
import RecordMapper.Proofs.Query.Joined
import RecordMapper.Proofs.Sample

namespace RecordMapper

/-! ## §1. Values under keys. -/

namespace Keyed

variable {l : Keyed String} {key value : String}

/-- **Writing a new value** leaves values distinct. -/
theorem nodup_values_put : ∀ {l : Keyed String}, value ∉ l.map (·.2) → (l.map (·.2)).Nodup →
    ((l.put key value).map (·.2)).Nodup
  | [], _, _ => List.nodup_singleton _
  | (k, v) :: rest, hnew, h => by
      obtain ⟨hne, hnew⟩ := List.ne_and_not_mem_of_not_mem_cons hnew
      obtain ⟨hv, hrest⟩ := List.nodup_cons.1 h
      unfold put
      split
      · exact List.nodup_cons.2 ⟨hnew, hrest⟩
      · refine List.nodup_cons.2 ⟨fun hmem => ?_, nodup_values_put hnew hrest⟩
        obtain ⟨cell, hcell, hsame⟩ := List.mem_map.1 hmem
        rcases mem_put hcell with rfl | hcell
        · exact hne hsame
        · exact hv (hsame ▸ List.mem_map_of_mem hcell)

/-- Distinct values are found under one key each. -/
theorem key_eq_of_get? (h : (l.map (·.2)).Nodup) {key' : String}
    (hkey : l.get? key = some value) (hkey' : l.get? key' = some value) : key = key' := by
  obtain ⟨cell, hcell, hvalue⟩ := Option.map_eq_some_iff.1 hkey
  obtain ⟨cell', hcell', hvalue'⟩ := Option.map_eq_some_iff.1 hkey'
  have hsame : cell = cell' :=
    List.inj_on_of_nodup_map h (List.mem_of_find?_eq_some hcell) (List.mem_of_find?_eq_some hcell')
      (hvalue.trans hvalue'.symm)
  have hfirst : cell.1 = key := by simpa using List.find?_some hcell
  have hsecond : cell'.1 = key' := by simpa using List.find?_some hcell'
  rw [← hfirst, hsame, hsecond]

/-- A key of the list has a value. -/
theorem get?_isSome (h : key ∈ l.keys) : (l.get? key).isSome = true := by
  obtain ⟨cell, hcell, rfl⟩ := List.mem_map.1 h
  unfold get?
  rw [Option.isSome_map]
  exact List.find?_isSome.2 ⟨cell, hcell, by simp⟩

end Keyed

namespace Select

/-! ## §2. The search. -/

/-- **The search for an alias**, for as long as it takes: the candidate, or else the alias of
the number, is found when it is free; otherwise the next number is tried, without a
candidate. -/
inductive Seeks (taken : List String) : Option String → Nat → String → Prop
  | free {candidate : Option String} {number : Nat}
      (h : candidate.getD (numberedAlias number) ∉ taken) :
      Seeks taken candidate number (candidate.getD (numberedAlias number))
  | again {candidate : Option String} {number : Nat} {found : String}
      (h : candidate.getD (numberedAlias number) ∈ taken)
      (rest : Seeks taken none (number + 1) found) :
      Seeks taken candidate number found

/-- The first number that is tried: an alias that is wanted is tried before the numbers. -/
def firstNumber (aliases : Keyed String) : Option String → Nat
  | some _ => aliases.length
  | none => aliases.length + 1

namespace Seeks

variable {taken : List String} {candidate : Option String} {number : Nat} {found found' : String}

/-- **The search is determined.** -/
theorem unique (h : Seeks taken candidate number found) (h' : Seeks taken candidate number found') :
    found = found' := by
  induction h with
  | free hfree =>
      cases h' with
      | free => rfl
      | again htaken => exact absurd htaken hfree
  | again htaken _ ih =>
      cases h' with
      | free hfree => exact absurd htaken hfree
      | again _ rest => exact ih rest

/-- A free alias that is reached by numbers is what the search finds. -/
theorem freeAlias {fuel : Nat} (h : Select.freeAlias taken number fuel ∉ taken) :
    Seeks taken none number (Select.freeAlias taken number fuel) := by
  -- Running out of fuel is no end of the search: the alias it runs out at is free.
  induction fuel generalizing number with
  | zero => exact .free h
  | succ fuel ih =>
      unfold Select.freeAlias at h ⊢
      split
      · rename_i htaken
        rw [if_pos htaken] at h
        exact .again (by simpa using htaken) (ih h)
      · rename_i hfree
        exact .free (by simpa using hfree)

/-- **The search ends** with the alias that is chosen. -/
theorem chooseAlias (aliases : Keyed String) (wanted : Option String) :
    Seeks (aliases.map (·.2)) wanted (firstNumber aliases wanted)
      (Select.chooseAlias aliases wanted) := by
  rcases chooseAlias_cases aliases wanted with ⟨name, rfl, hfree, hchosen⟩ | ⟨htaken, hchosen⟩
  · have hname : (some name).getD (numberedAlias aliases.length) ∉ aliases.map (·.2) := hfree
    rw [hchosen]
    exact .free hname
  · have hnumbered := freeAlias (numbered_free aliases)
    rw [hchosen]
    cases wanted with
    | none => exact hnumbered
    | some name => exact .again (htaken name rfl) hnumbered

end Seeks

/-- **Which numbered alias is found**: the first one that is free, or the last one that can
be tried. -/
theorem freeAlias_first (taken : List String) : ∀ fuel n : Nat, ∃ k, n ≤ k ∧ k ≤ n + fuel
    ∧ freeAlias taken n fuel = numberedAlias k ∧ ∀ j, n ≤ j → j < k → numberedAlias j ∈ taken
  | 0, n => ⟨n, Nat.le_refl n, Nat.le_refl n, rfl, fun j hn hk => absurd hk (by omega)⟩
  | fuel + 1, n => by
      unfold freeAlias
      split
      · rename_i htaken
        obtain ⟨k, hn, hk, hsame, hbefore⟩ := freeAlias_first taken fuel (n + 1)
        refine ⟨k, by omega, by omega, hsame, fun j hj hjk => ?_⟩
        rcases Nat.eq_or_lt_of_le hj with rfl | hj
        · simpa using htaken
        · exact hbefore j hj hjk
      · exact ⟨n, Nat.le_refl n, by omega, rfl, fun j hn hk => absurd hk (by omega)⟩

/-! ## §3. Aliases of selects. -/

/-- **The tables of a select are told apart**: no alias is given twice, and every table has
one as soon as one is joined. -/
structure ToldApart (q : Select) : Prop where
  distinct : (q.aliases.map (·.2)).Nodup
  given : q.joined ≠ [] → ∀ table ∈ q.tables, table ∈ q.aliases.keys

/-- What a join writes is an alias for the root, unless it has one, and one for the model. -/
theorem nodup_aliased {aliases : Keyed String} (h : (aliases.map (·.2)).Nodup) (root model : Model)
    (wanted : Option String) : ((aliased root aliases model wanted).map (·.2)).Nodup := by
  have hput : ∀ {aliases : Keyed String} (key : String) (wanted : Option String),
      (aliases.map (·.2)).Nodup → ((aliases.put key (chooseAlias aliases wanted)).map (·.2)).Nodup :=
    fun key wanted => Keyed.nodup_values_put (chooseAlias_not_mem _ wanted)
  unfold aliased
  split
  · exact hput _ _ h
  · exact hput _ _ (hput _ _ h)

theorem mem_keys_aliased {aliases : Keyed String} {root model : Model} {wanted : Option String}
    {table : String} (h : table = model.name ∨ table = root.name ∨ table ∈ aliases.keys) :
    table ∈ (aliased root aliases model wanted).keys := by
  refine Keyed.mem_keys_put.2 (h.imp_right fun h => ?_)
  split
  · rename_i hhas
    rcases h with rfl | h
    · exact Keyed.has_iff_mem_keys.1 hhas
    · exact h
  · exact Keyed.mem_keys_put.2 h

namespace ToldApart

variable {q q' : Select}

/-- **One call** leaves the tables told apart. -/
theorem call {catalog : Catalog} {c : Call} (hq : q.ToldApart) (h : q.call catalog c = .ok q') :
    q'.ToldApart := by
  cases c with
  | join model type on wanted =>
      obtain ⟨lhs, rhs, _, rfl⟩ := join_ok h
      refine ⟨nodup_aliased hq.distinct _ _ _, fun _ table htable => mem_keys_aliased ?_⟩
      rcases List.mem_cons.1 htable with rfl | htable
      · exact .inr (.inl rfl)
      -- A table that was joined before shows that something was, and so it had an alias.
      · refine (mem_tables_addJoin.1 htable).imp_right fun hold => .inr (hq.given ?_ _ ?_)
        · intro hnone
          rw [hnone] at hold
          cases hold
        · exact List.mem_cons_of_mem _ hold
  | activate model =>
      obtain ⟨_, rfl⟩ := activate_ok h
      exact ⟨hq.distinct, hq.given⟩
  | filterBy filters =>
      obtain ⟨conditions, _, h⟩ := bind_ok.1 h
      obtain rfl := pure_ok.1 h
      exact ⟨hq.distinct, hq.given⟩
  | _ =>
      obtain rfl := Except.ok.inj h
      exact ⟨hq.distinct, hq.given⟩

end ToldApart

/-- **The tables of every select that is built** are told apart. -/
theorem Built.toldApart {q : Select} {passed : List Condition} (h : q.Built passed) :
    q.ToldApart := by
  induction h with
  | start model => exact ⟨.nil, fun hne => absurd rfl hne⟩
  | bare model => exact ⟨.nil, fun hne => absurd rfl hne⟩
  | call _ _ _ h _ ih => exact ih.call h

/-- **The search for an alias ends, and with a free one.**  Whatever the aliases are and
whichever is wanted, the search finds one alias, the one that is chosen, and it is not taken:
the wanted one when it is free, and otherwise the first numbered one that is free behind the
number of aliases.  So, however a select is built, its aliases are all different, its tables
have one as soon as one is joined, and no two of them have the same. -/
theorem alias_search_ends_free (aliases : Keyed String) (wanted : Option String) :
    (∀ found, Seeks (aliases.map (·.2)) wanted (firstNumber aliases wanted) found
        ↔ found = chooseAlias aliases wanted)
      ∧ chooseAlias aliases wanted ∉ aliases.map (·.2)
      ∧ (∀ name, wanted = some name → name ∉ aliases.map (·.2) → chooseAlias aliases wanted = name)
      ∧ ((∀ name, wanted = some name → name ∈ aliases.map (·.2)) →
          ∃ k, aliases.length < k ∧ k ≤ 2 * aliases.length + 1
            ∧ chooseAlias aliases wanted = numberedAlias k
            ∧ ∀ j, aliases.length < j → j < k → numberedAlias j ∈ aliases.map (·.2))
      ∧ ∀ (q : Select) (passed : List Condition), q.Built passed →
          (q.aliases.map (·.2)).Nodup
            ∧ (q.joined ≠ [] → ∀ table ∈ q.tables, (q.aliases.get? table).isSome = true)
            ∧ ∀ table table' name, q.aliases.get? table = some name →
                q.aliases.get? table' = some name → table = table' := by
  refine ⟨fun found => ⟨fun h => h.unique (.chooseAlias aliases wanted), ?_⟩,
    chooseAlias_not_mem aliases wanted, ?_, fun htaken => ?_, fun q passed hq => ?_⟩
  · rintro rfl
    exact .chooseAlias aliases wanted
  · rintro name rfl hfree
    rcases chooseAlias_cases aliases (some name) with ⟨_, hname, _, hchosen⟩ | ⟨htaken, _⟩
    · exact hchosen.trans (Option.some.inj hname).symm
    · exact absurd (htaken name rfl) hfree
  · obtain ⟨k, hn, hk, hsame, hbefore⟩ :=
      freeAlias_first (aliases.map (·.2)) aliases.length (aliases.length + 1)
    refine ⟨k, hn, by omega, ?_, hbefore⟩
    rcases chooseAlias_cases aliases wanted with ⟨name, hname, hfree, _⟩ | ⟨_, hchosen⟩
    · exact absurd (htaken name hname) hfree
    · exact hchosen.trans hsame
  · obtain ⟨hdistinct, hgiven⟩ := hq.toldApart
    exact ⟨hdistinct, fun hjoined table htable => Keyed.get?_isSome (hgiven hjoined table htable),
      fun _ _ _ => Keyed.key_eq_of_get? hdistinct⟩

open Sample in
/-- An alias that is wanted and taken is not given again: `t3` looks like a numbered one, and
`t1` is the one that the root was given. -/
theorem wanted_aliases_taken :
    chooseAlias [("Author", "t2"), ("Book", "t3")] (some "t3") = "t4"
      ∧ ∃ q, (ofModel book).join .empty author .inner (some "author_id") (some "t1") = .ok q
        ∧ q.aliases.get? "Book" = some "t1" ∧ q.aliases.get? "Author" ≠ some "t1" := by
  obtain ⟨hends, _⟩ := alias_search_ends_free [("Author", "t2"), ("Book", "t3")] (some "t3")
  refine ⟨((hends "t4").1 ?_).symm, ?_⟩
  · have hfree : Option.none.getD (numberedAlias 4) ∉ ["t2", "t3"] := by decide
    exact .again (by decide) (.again (by decide) (.free hfree))
  · obtain ⟨q, hq⟩ : ∃ q, (ofModel book).join .empty author .inner (some "author_id") (some "t1")
      = .ok q := ⟨_, rfl⟩
    have hbuilt : q.Built ([] ++ []) :=
      .call .empty (.join author .inner (some "author_id") (some "t1")) (.start book) hq rfl
    obtain ⟨_, _, _, _, hbuilds⟩ := alias_search_ends_free [] none
    obtain ⟨_, _, happart⟩ := hbuilds q _ hbuilt
    have hroot : q.aliases.get? "Book" = some "t1" := by
      cases hq
      decide +kernel
    exact ⟨q, hq, hroot, fun hauthor => absurd (happart _ _ _ hroot hauthor) (by decide)⟩

end Select

end RecordMapper
