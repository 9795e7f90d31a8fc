/-
# Longest words

Parsers that read the longest word of a language that a text begins with.  A parser commits itself
to the first word that it finds, so that sequence and choice do not keep this property by
themselves.  A sequence keeps it if no word of the second language begins with a character of the
first one, and a choice does if no word of the second language continues one of the first.
-/
import TokenGrammar.Proofs.Reading
import TokenGrammar.Proofs.Stretches
import TokenGrammar.Proofs.Words

namespace TokenGrammar

/-- The text between two windows is the beginning of what the first one shows. -/
theorem Span.Shows.toList_extract {r s : Span} {cs : Array Char} {t : List Char} (h : r.Shows t)
    (hr : r.source.content = .text cs) (hs : s.Within r) :
    (cs.extract r.start s.start).toList = t.take (s.start - r.start) := by
  have hle := hs.start_le_stop
  have hmin : min (s.start - r.start) (r.stop - r.start) = s.start - r.start := by omega
  rw [h.unique (shows_extract hr), Array.toList_extract, Array.toList_extract, List.extract,
    List.extract, List.take_take, hmin]

namespace Parser

variable {p q : Parser} {E : Halt → Prop} {top r s : Span} {x : Results} {f : Failure}
  {cs : Array Char} {L M : Language Char} {t : List Char}

/-! ## The word that is read -/

/-- What is shown consists of the word that is read and of what is left. -/
theorem Reads.exists_word (hp : p.Reads E top L) (hr : r.source.content = .text cs)
    (ht : r.Shows t) (hx : p.Succeeds r x s) :
    ∃ w u h, t = w ++ u ∧ w ∈ L ∧ s = r.drop w.length h := by
  have hs : s.Within r := (hp.spelled hr hx).within
  have hword := ht.toList_extract hr hs
  have hmem := hp.mem hr hx
  obtain ⟨n, hn, rfl⟩ := hs.exists_eq_drop
  have hlength : (t.take n).length = n := by
    rw [List.length_take, Nat.min_eq_left]
    exact ht.length_eq ▸ hn
  rw [Span.start_drop, Nat.add_sub_cancel_left] at hword
  rw [Span.start_drop, hword] at hmem
  refine ⟨t.take n, t.drop n, hlength.symm ▸ hn, (List.take_append_drop n t).symm, hmem, ?_⟩
  simp only [hlength]

variable (p top L) in
/-- On windows inside `top` the parser reads the longest word of `L` that is shown, and fails if
there is none. -/
structure ReadsLongest : Prop extends p.Reads (fun _ => False) top L where
  longest : ∀ {r t}, r.Within top → r.Shows t →
    (∃ f, p.Fails r f ∧ ∀ w ∈ L, ¬ w <+: t) ∨
    ∃ x s, p.Succeeds r x s ∧ ∀ w ∈ L, w <+: t → r.start + w.length ≤ s.start

namespace ReadsLongest

variable (htop : top.source.content = .text cs)
include htop

/-- The longest word is what the parser goes on behind. -/
theorem exists_longest (hp : p.ReadsLongest top L) (hr : r.Within top) (ht : r.Shows t) :
    (∃ f, p.Fails r f ∧ ∀ w ∈ L, ¬ w <+: t) ∨
    ∃ x w u h, t = w ++ u ∧ Text.LongestWord L t w ∧ p.Succeeds r x (r.drop w.length h) := by
  rcases hp.longest hr ht with hfails | ⟨x, s, hx, hlongest⟩
  · exact Or.inl hfails
  · obtain ⟨w, u, h, rfl, hw, rfl⟩ := hp.exists_word (hr.content_eq htop) ht hx
    refine Or.inr ⟨x, w, u, h, rfl, ⟨hw, List.prefix_append w u, fun v hv hprefix => ?_⟩, hx⟩
    exact Nat.add_le_add_iff_left.1 (hlongest v hv hprefix)

/-- A word that cannot be continued is read. -/
theorem exists_succeeds (hp : p.ReadsLongest top L) (hr : r.Within top) {w u : List Char}
    (ht : r.Shows (w ++ u)) (hw : w ∈ L) (hu : ∀ c ∈ u.head?, ∀ v, w ++ c :: v ∉ L) :
    ∃ x h, p.Succeeds r x (r.drop w.length h) := by
  rcases hp.exists_longest htop hr ht with ⟨f, -, hnone⟩ | ⟨x, v, u', h, hv, hlongest, hx⟩
  · exact absurd (List.prefix_append w u) (hnone w hw)
  · have hlength : w.length ≤ v.length := hlongest.length_le w hw (List.prefix_append w u)
    obtain ⟨v', rfl⟩ : w <+: v :=
      List.prefix_of_prefix_length_le (List.prefix_append w u) hlongest.begins hlength
    cases v' with
    | nil =>
      simp only [List.append_nil] at hx
      exact ⟨x, _, hx⟩
    | cons c v' =>
      rw [List.append_assoc, List.append_cancel_left_eq] at hv
      exact absurd hlongest.mem (hu c (by rw [hv]; rfl) v')

/-- At the end of a text nothing but the empty word is read. -/
theorem exists_fails (hp : p.ReadsLongest top L) (hr : r.Within top) (ht : r.Shows [])
    (hnil : [] ∉ L) : ∃ f, p.Fails r f := by
  rcases hp.exists_longest htop hr ht with ⟨f, hf, -⟩ | ⟨x, w, u, h, -, hw, hx⟩
  · exact ⟨f, hf⟩
  · exact absurd (List.prefix_nil.1 hw.begins ▸ hw.mem) hnil

end ReadsLongest

/-! ## Single characters, stretches and nothing -/

/-- A test on characters accepts the single characters of its class. -/
theorem accepted_eq_singles {accepts : Datum → Except Fault Bool} {P : Char → Prop}
    [DecidablePred P] (h : ∀ c, accepts (Datum.char c) = .ok (decide (P c))) :
    accepted accepts = Text.singles P := by
  apply Language.ext
  intro w
  refine exists_congr fun c => and_congr_right fun _ => ?_
  rw [h, Except.ok.injEq, decide_eq_true_eq]

/-- One accepted token reads a single character of a class. -/
theorem readsLongest_satisfy (htop : top.source.content = .text cs)
    {accepts : Datum → Except Fault Bool} {description : String} {P : Char → Prop}
    [DecidablePred P] (h : ∀ c, accepts (Datum.char c) = .ok (decide (P c))) :
    (satisfy accepts description).ReadsLongest top (Text.singles P) := by
  have hreads : (satisfy accepts description).Reads (fun _ => False) top (Text.singles P) := by
    rw [← accepted_eq_singles h]
    exact (lexes_satisfy htop fun c => ⟨_, h c⟩).toReads
  refine ⟨hreads, fun {r t} _ ht => ?_⟩
  cases t with
  | nil =>
    refine Or.inl ⟨_, fails_satisfy_of_nil ht, ?_⟩
    rintro w hw hprefix
    rw [List.prefix_nil.1 hprefix] at hw
    exact Text.nil_notMem_singles P hw
  | cons c t =>
    by_cases hc : P c
    · have haccepted : accepts (Datum.char c) = .ok true := by rw [h, decide_eq_true hc]
      obtain ⟨_, hx⟩ := succeeds_satisfy description ht haccepted
      refine Or.inr ⟨_, _, hx, ?_⟩
      rintro _ ⟨d, rfl, -⟩ -
      exact Nat.le_refl _
    · have hrejected : accepts (Datum.char c) = .ok false := by rw [h, decide_eq_false hc]
      refine Or.inl ⟨_, fails_satisfy ht hrejected, ?_⟩
      rintro _ ⟨d, rfl, hd⟩ hprefix
      exact hc ((List.cons_prefix_cons.1 hprefix).1 ▸ hd)

section Stretches

variable {accepts : Datum → Except Fault Bool} (description : String) {P : Char → Prop}
  [DecidablePred P] (h : ∀ c, accepts (Datum.char c) = .ok (decide (P c))) {u v : List Char}
  (hu : ∀ c ∈ u.head?, ¬ P c)
include h hu

/-- A character without the property is not read. -/
theorem exists_fails_of_stopped (ht : r.Shows u) :
    ∃ f, (satisfy accepts description).Fails r f := by
  cases u with
  | nil => exact ⟨_, fails_satisfy_of_nil ht⟩
  | cons c u =>
    have hrejected : accepts (Datum.char c) = .ok false := by rw [h, decide_eq_false (hu c rfl)]
    exact ⟨_, fails_satisfy ht hrejected⟩

/-- A stretch is read up to its end, or up to the cap. -/
theorem exists_succeeds_of_stretch (ht : r.Shows (v ++ u)) (hv : v ∈ Text.stretches P) (cap : Int) :
    ∃ x hle, ((satisfy accepts description).oneOrMore cap none).Succeeds r x
      (r.drop (min v.length (max 1 cap.toNat)) hle) := by
  have htokens : r.tokens = v.map Datum.char ++ u.map Datum.char := by
    rw [← List.map_append]
    exact ht
  have hin : ∀ d ∈ v.map Datum.char, accepts d = .ok true := by
    intro d hd
    obtain ⟨c, hc, rfl⟩ := List.mem_map.1 hd
    rw [h, decide_eq_true (hv.2 c hc)]
  have hout : ∀ d ∈ (u.map Datum.char).head?, accepts d = .ok false := by
    intro d hd
    rw [List.head?_map] at hd
    obtain ⟨c, hc, rfl⟩ := Option.mem_map.1 hd
    rw [h, decide_eq_false (hu c hc)]
  have hne : v.map Datum.char ≠ [] := mt List.map_eq_nil_iff.1 hv.1
  have hlimit : (none : Option Bound).elim cap.toNat Bound.limit = cap.toNat := rfl
  obtain ⟨x, hle, hx, -⟩ :=
    exists_succeeds_oneOrMore_satisfy description htokens hin hout hne hlimit
  simp only [List.length_map] at hle hx
  exact ⟨x, hle, hx⟩

/-- A stretch that may be empty is read up to its end, if the cap leaves room for it. -/
theorem exists_succeeds_zeroOrMore (ht : r.Shows (v ++ u)) (hv : ∀ c ∈ v, P c) {cap : Int}
    (hcap : v.length ≤ cap) :
    ∃ x hle, ((satisfy accepts description).zeroOrMore cap none).Succeeds r x
      (r.drop v.length hle) := by
  cases v with
  | nil =>
    obtain ⟨f, hf⟩ := exists_fails_of_stopped description h hu ht
    exact ⟨_, Nat.zero_le _, result_zeroOrMore_of_failure hf rfl cap none, rfl, rfl⟩
  | cons c v =>
    obtain ⟨x, hle, hx⟩ :=
      exists_succeeds_of_stretch description h hu ht ⟨List.cons_ne_nil c v, hv⟩ cap
    have hlength : min (c :: v).length (max 1 cap.toNat) = (c :: v).length := by omega
    simp only [hlength] at hle hx
    -- once the first character is read, it does not matter that there might have been none
    have haccepted : accepts (Datum.char c) = .ok true := by
      rw [h, decide_eq_true (hv c List.mem_cons_self)]
    obtain ⟨_, hfirst⟩ := succeeds_satisfy description ht haccepted
    have hsame := zeroOrMore_eq_oneOrMore hfirst.result_eq hfirst.isSuccess cap
    exact ⟨x, hle, (congrArg Run.result hsame).trans hx.result_eq, hx.isSuccess, hx.remaining_eq⟩

end Stretches

/-- A repetition of single characters reads a longest stretch, if the cap leaves room for it. -/
theorem readsLongest_oneOrMore (htop : top.source.content = .text cs)
    {accepts : Datum → Except Fault Bool} {description : String} {P : Char → Prop}
    [DecidablePred P] (h : ∀ c, accepts (Datum.char c) = .ok (decide (P c))) {cap : Int}
    (hcap : top.length ≤ cap) :
    ((satisfy accepts description).oneOrMore cap none).ReadsLongest top (Text.stretches P) := by
  have hone : (satisfy accepts description).Reads (fun _ => False) top (Text.singles P) :=
    (readsLongest_satisfy htop h).toReads
  have hmany := hone.oneOrMore cap none
  rw [← Text.stretches_eq] at hmany
  refine ⟨hmany, fun {r t} hr ht => ?_⟩
  obtain ⟨v, u, rfl, hv, hu⟩ : ∃ v u, t = v ++ u ∧ (∀ c ∈ v, P c) ∧ ∀ c ∈ u.head?, ¬ P c :=
    Text.exists_stretch P t
  by_cases hnil : v = []
  · subst hnil
    obtain ⟨f, hf⟩ := exists_fails_of_stopped description h hu ht
    refine Or.inl ⟨_, result_oneOrMore_of_failure hf rfl cap none, fun w hw hprefix => ?_⟩
    exact hw.1 (List.prefix_nil.1 (Text.prefix_of_stopped hu hw.2 hprefix))
  · obtain ⟨x, hle, hx⟩ := exists_succeeds_of_stretch description h hu ht ⟨hnil, hv⟩ cap
    refine Or.inr ⟨x, _, hx, fun w hw hprefix => ?_⟩
    have hlength : w.length ≤ v.length := (Text.prefix_of_stopped hu hw.2 hprefix).length_le
    have htotal : r.length = v.length + u.length := by rw [ht.length_eq, List.length_append]
    have := hr.length_le
    rw [Span.start_drop]
    omega

/-- Nothing is read of a text that may be absent. -/
theorem readsLongest_succeed_nil : (succeed (.text [])).ReadsLongest top 1 := by
  refine ⟨reads_succeed_nil, fun {r t} _ _ => Or.inr ⟨_, r, ⟨rfl, rfl, rfl⟩, ?_⟩⟩
  rintro _ rfl -
  exact Nat.le_refl _

/-! ## Sequence, choice and joining -/

/-- What is read can be joined. -/
theorem Succeeds.exists_reduce [Monoids] (hx : p.Succeeds r x s) (hp : p.Spells)
    (hr : r.source.content = .text cs) : ∃ y, p.reduce.Succeeds r y s := by
  by_cases hvalues : x.values = []
  · exact ⟨.single (.empty s), hx.result_fold_of_nil hvalues _, rfl, rfl⟩
  · have hcombine := Datum.combine_of_spelled? (hp.spelled hr hx).spelled?_eq hvalues
    refine ⟨.single (.value (.text (cs.extract r.start s.start).toList) s), ?_, rfl, rfl⟩
    rw [Parser.reduce, hx.result_fold_of_ne_nil hvalues, hcombine]
    rfl

namespace ReadsLongest

theorem describe (hp : p.ReadsLongest top L) (description : Option String) :
    (p.describe description).ReadsLongest top L :=
  ⟨hp.toReads.describe description, fun hr ht => (hp.longest hr ht).imp_right
    fun ⟨x, s, hx, hlongest⟩ => ⟨x, s, hx.describe description, hlongest⟩⟩

variable (htop : top.source.content = .text cs)
include htop

/-- A sequence reads longest words if the second part does not go on from the inside of the first
one. -/
theorem andThen (hp : p.ReadsLongest top L) (hq : q.ReadsLongest top M) (hLM : Text.Apart L M) :
    (p.andThen q).ReadsLongest top (L * M) := by
  refine ⟨hp.toReads.andThen hq.toReads, fun {r t} hr ht => ?_⟩
  rcases hp.exists_longest htop hr ht with ⟨f, hf, hnone⟩ | ⟨x, w, u, h, rfl, hw, hx⟩
  · refine Or.inl ⟨f, hf.andThen q, fun _ hab hprefix => ?_⟩
    obtain ⟨a, ha, b, -, rfl⟩ := Language.mem_mul.1 hab
    exact hnone a ha ((List.prefix_append a b).trans hprefix)
  · have hrest : (r.drop w.length h).Shows u := ht.drop_append
    rcases hq.longest (hr.drop w.length h) hrest with ⟨f, hf, hnone⟩ | ⟨y, s, hy, hlongest⟩
    · refine Or.inl ⟨f, hx.andThen_fails hf, fun _ hab hprefix => ?_⟩
      obtain ⟨a, ha, b, hb, rfl⟩ := Language.mem_mul.1 hab
      exact hnone b hb (hw.prefix_of_append hLM ha hb hprefix)
    · refine Or.inr ⟨x ++ y, s, hx.andThen hy, fun _ hab hprefix => ?_⟩
      obtain ⟨a, ha, b, hb, rfl⟩ := Language.mem_mul.1 hab
      have hbegins : a <+: w ++ u := (List.prefix_append a b).trans hprefix
      have hfirst : a.length ≤ w.length := hw.length_le a ha hbegins
      have hsecond := hlongest b hb (hw.prefix_of_append hLM ha hb hprefix)
      rw [Span.start_drop] at hsecond
      rw [List.length_append]
      omega

/-- A choice reads longest words if the second part does not continue the first one. -/
theorem orElse (hp : p.ReadsLongest top L) (hq : q.ReadsLongest top M)
    (hLM : ∀ w ∈ L, ∀ v, w ++ v ∈ M → v = []) : (p.orElse q).ReadsLongest top (L + M) := by
  refine ⟨hp.toReads.orElse hq.toReads, fun {r t} hr ht => ?_⟩
  rcases hp.exists_longest htop hr ht with ⟨f, hf, hnone⟩ | ⟨x, w, u, h, rfl, hw, hx⟩
  · have hresult := hf.result_orElse q
    rcases hq.longest hr ht with ⟨g, hg, hnone'⟩ | ⟨y, s, hy, hlongest⟩
    · exact Or.inl ⟨g, hresult.trans hg, fun v hv => hv.elim (hnone v) (hnone' v)⟩
    · refine Or.inr ⟨y, s, ⟨hresult.trans hy.result_eq, hy.isSuccess, hy.remaining_eq⟩, ?_⟩
      rintro v (hv | hv) hprefix
      · exact absurd hprefix (hnone v hv)
      · exact hlongest v hv hprefix
  · refine Or.inr ⟨x, _, hx.orElse q, fun v hv hprefix => ?_⟩
    refine Nat.add_le_add_left ?_ r.start
    rcases hv with hv | hv
    · exact hw.length_le v hv hprefix
    · -- a longer word would continue the one that is read
      rcases List.prefix_or_prefix_of_prefix hprefix hw.begins with hle | ⟨v', rfl⟩
      · exact hle.length_le
      · rw [hLM w hw.mem v' hv, List.append_nil]

/-- What may be absent is read if it is there. -/
theorem optional (hp : p.ReadsLongest top L) :
    (p.optional (succeed (.text []))).ReadsLongest top (L + 1) := by
  have hchoice := hp.orElse htop readsLongest_succeed_nil fun _ _ _ hv =>
    (List.append_eq_nil_iff.1 hv).2
  exact hchoice.describe _

/-- The sum of the values is read as their texts were. -/
theorem reduce [Monoids] (hp : p.ReadsLongest top L) : p.reduce.ReadsLongest top L := by
  refine ⟨hp.toReads.reduce htop, fun {r t} hr ht => ?_⟩
  rcases hp.longest hr ht with ⟨f, hf, hnone⟩ | ⟨x, s, hx, hlongest⟩
  · exact Or.inl ⟨f, hf.fold Datum.combine false, hnone⟩
  · obtain ⟨y, hy⟩ := hx.exists_reduce hp.toSpells (hr.content_eq htop)
    exact Or.inr ⟨y, s, hy, hlongest⟩

end ReadsLongest

/-! ## Functions of words -/

/-- `p` produces the single value `d` on `r` and goes on from `s`. -/
def Yields (p : Parser) (r : Span) (d : Datum) (s : Span) : Prop :=
  (p.parse r).result = .ok (.single (.value d s))

variable {d v : Datum} {g : Datum → Except Fault Datum}

/-- A parser that yields a value succeeds with it. -/
theorem Yields.succeeds (h : p.Yields r d s) : p.Succeeds r (.single (.value d s)) s :=
  ⟨h, rfl, rfl⟩

/-- A function of words is applied to the word that is produced. -/
theorem Yields.result_lift (h : p.Yields r d s) (g : Datum → Except Fault Datum) :
    ((p.lift g).parse r).result
      = (Run.ofFault (Fault.enclose (g d)) >>= fun v => pure (.single (.value v s))).result := by
  rw [h.succeeds.result_lift, map_single]

/-- A parser with changed values yields the changed value. -/
theorem Yields.lift (h : p.Yields r d s) (hd : g d = .ok v) : (p.lift g).Yields r v s := by
  rw [Yields, h.result_lift, hd]
  rfl

/-- A word that is read is a value. -/
theorem Lexes.yields {E : Halt → Prop} (hp : p.Lexes E top L) (hr : r.source.content = .text cs)
    {w u : List Char} (ht : r.Shows (w ++ u)) {h : w.length ≤ r.length}
    (hx : p.Succeeds r x (r.drop w.length h)) : p.Yields r (.text w) (r.drop w.length h) := by
  have hword := ht.toList_extract hr (hp.spelled hr hx).within
  rw [Span.start_drop, Nat.add_sub_cancel_left, List.take_left] at hword
  rw [Yields, hx.result_eq, hp.eq_single hr hx, Span.start_drop, hword]

/-- The longest word is produced, or there is none. -/
theorem ReadsLongest.yields_or_fails {E : Halt → Prop} (hp : p.ReadsLongest top L)
    (hlex : p.Lexes E top L) (htop : top.source.content = .text cs) (hr : r.Within top)
    (ht : r.Shows t) :
    (∃ w h, Text.LongestWord L t w ∧ p.Yields r (.text w) (r.drop w.length h)) ∨
    ((∀ w ∈ L, ¬ w <+: t) ∧ ∃ f, p.Fails r f) := by
  rcases hp.exists_longest htop hr ht with ⟨f, hf, hnone⟩ | ⟨x, w, u, h, rfl, hw, hx⟩
  · exact Or.inr ⟨hnone, f, hf⟩
  · exact Or.inl ⟨w, h, hw, hlex.yields (hr.content_eq htop) ht hx⟩

end Parser

end TokenGrammar
