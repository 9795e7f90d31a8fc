/-
# Taking a text

What a window on a text shows, and what its outcomes take from it.  A parser that fails gives a lone
failure; one that succeeds leaves a window that shows the end of what was shown before.  The lemmas
say what combinators and loops do when it is known what their parts do.
-/
import TokenGrammar.Proofs.ExactBound
import TokenGrammar.Proofs.Success

namespace TokenGrammar

/-! ## The text in view -/

/-- Texts of one character tell their characters apart. -/
theorem Datum.char_injective : Function.Injective Datum.char := by
  intro c d h
  injection h with h
  exact List.singleton_inj.1 h

namespace Span

/-- The tokens in view are the characters of `w`. -/
def Shows (r : Span) (w : List Char) : Prop :=
  r.tokens = w.map Datum.char

variable {r : Span} {w : List Char}

/-- A window on a text shows the part of it between its ends. -/
theorem shows_extract {cs : Array Char} (hr : r.source.content = .text cs) :
    r.Shows (cs.extract r.start r.stop).toList := by
  rw [Shows, tokens, hr]
  rfl

/-- A window on a text shows some characters. -/
theorem exists_shows {cs : Array Char} (hr : r.source.content = .text cs) : ∃ w, r.Shows w :=
  ⟨_, shows_extract hr⟩

/-- The window over a whole text shows all of it. -/
theorem shows_whole (w : List Char) : (whole (.ofText w)).Shows w := by
  rw [Shows, tokens_whole, Source.tokens_ofText]

/-- A window is as long as what it shows. -/
theorem Shows.length_eq (h : r.Shows w) : r.length = w.length := by
  rw [← length_tokens, h, List.length_map]

/-- The first token in view is the head. -/
theorem head_eq_of_tokens {d : Datum} {ds : List Datum} (h : r.tokens = d :: ds) :
    r.isEmpty = false ∧ r.head = .ok d := by
  have hlength : r.length = ds.length + 1 := by
    rw [← length_tokens, h]
    rfl
  refine ⟨?_, (head_eq_ok_iff ..).2 (by rw [h]; rfl)⟩
  rw [← Bool.not_eq_true, isEmpty_iff]
  omega

/-- Behind the beginning of what is shown stands the rest of it. -/
theorem Shows.drop_append {v : List Char} (h : r.Shows (w ++ v)) {hn : w.length ≤ r.length} :
    (r.drop w.length hn).Shows v := by
  rw [Shows, tokens_drop, h, ← List.map_drop, List.drop_left]

/-- A window that shows the end of what is shown begins behind the rest of it. -/
theorem Shows.start_eq {s : Span} {v : List Char} (h : r.Shows (w ++ v)) (hs : s.Within r)
    (hv : s.Shows v) : s.start = r.start + w.length := by
  have hlength : r.length = w.length + v.length := by rw [h.length_eq, List.length_append]
  have hrest : s.length = v.length := hv.length_eq
  have := hs.stop_eq
  have := s.start_le_stop
  have := r.start_le_stop
  unfold length at hlength hrest
  omega

/-- A window shows one text only. -/
theorem Shows.unique {v : List Char} (h : r.Shows w) (hv : r.Shows v) : w = v :=
  List.map_injective_iff.2 Datum.char_injective (h.symm.trans hv)

end Span

/-! ## Successes and failures -/

namespace Parser

/-- `p` fails on `r` with `f` alone. -/
def Fails (p : Parser) (r : Span) (f : Failure) : Prop :=
  (p.parse r).result = .ok (.fail f)

variable {p q : Parser} {r s t : Span} {x y : Results} {f : Failure}

/-- A parser that succeeds does not fail. -/
theorem Succeeds.not_fails (h : p.Succeeds r x s) : ¬ p.Fails r f := by
  intro hf
  cases h.result_eq.symm.trans hf
  exact h.not_fail

/-- A parser that fails does not move. -/
theorem Fails.stays (h : p.Fails r f) : p.Stays r :=
  stays_of_failure h rfl

/-! ### Single tokens and the end -/

section Satisfy

variable {accepts : Datum → Except Fault Bool} {description : String} {d : Datum} {ds : List Datum}

/-- A token that comes first and is accepted is consumed. -/
theorem succeeds_satisfy (description : String) (hr : r.tokens = d :: ds)
    (hd : accepts d = .ok true) :
    ∃ h, (satisfy accepts description).Succeeds r (.single (.value d (r.drop 1 h)))
      (r.drop 1 h) := by
  obtain ⟨hempty, hhead⟩ := Span.head_eq_of_tokens hr
  have h1 : 1 ≤ r.length := Span.one_le_length hempty
  have htail : r.tail 1 = .ok (r.drop 1 h1) := Span.tail_ofNat r 1 h1
  refine ⟨h1, ?_, rfl, rfl⟩
  simp only [satisfy, hempty, Bool.false_eq_true, if_false, hhead, htail, Run.ofSpan_ok,
    Run.pure_bind, hd, Run.ofFault_ok, if_true, Run.result_pure]

/-- Without a token in view, an item is missing. -/
theorem fails_satisfy_of_nil (hr : r.tokens = []) :
    (satisfy accepts description).Fails r (.missingItem r.start) := by
  simp only [Fails, satisfy, Span.isEmpty_iff_tokens_eq_nil.2 hr, if_true, Run.result_pure]

/-- A token that is not accepted is a mismatch. -/
theorem fails_satisfy (hr : r.tokens = d :: ds) (hd : accepts d = .ok false) :
    (satisfy accepts description).Fails r (.mismatch (some description) d r.start) := by
  obtain ⟨hempty, hhead⟩ := Span.head_eq_of_tokens hr
  simp only [Fails, satisfy, hempty, Bool.false_eq_true, if_false, hhead, Run.ofSpan_ok,
    Run.pure_bind, hd, Run.ofFault_ok, Run.result_pure]

/-- Without a token in view, the input is at its end. -/
theorem succeeds_done (hr : r.tokens = []) : done.Succeeds r (.single (.empty r)) r := by
  refine ⟨?_, rfl, rfl⟩
  simp only [done, Span.isEmpty_iff_tokens_eq_nil.2 hr, if_true, Run.result_pure]

/-- Before the end, the failure names the token in the way. -/
theorem fails_done (hr : r.tokens = d :: ds) (hd : d.writable = true) :
    done.Fails r { reason := .unexpected d, message := "unexpected " ++ d.render,
                   position := some r.start } := by
  obtain ⟨hempty, hhead⟩ := Span.head_eq_of_tokens hr
  simp only [Fails, done, hempty, Bool.false_eq_true, if_false, hhead, Run.ofSpan_ok, Run.pure_bind,
    Failure.unexpected_of_writable hd, Run.ofFault_ok, Run.result_pure]

/-- A token that cannot be written down cannot be named. -/
theorem halts_done (hr : r.tokens = d :: ds) (hd : d.writable = false) :
    (done.parse r).result = .error (.fault .badValue) := by
  obtain ⟨hempty, hhead⟩ := Span.head_eq_of_tokens hr
  simp only [done, hempty, Bool.false_eq_true, if_false, hhead, Run.ofSpan_ok, Run.pure_bind,
    Failure.unexpected_of_not_writable hd, Run.ofFault_error, Run.halt_bind]
  rfl

end Satisfy

/-! ### Sequence, choice and values -/

/-- One success after another. -/
theorem Succeeds.andThen (hp : p.Succeeds r x s) (hq : q.Succeeds s y t) :
    (p.andThen q).Succeeds r (x ++ y) t := by
  refine ⟨?_, hp.isSuccess, ?_⟩
  · simp only [Parser.andThen]
    rw [Run.bind_of_ok hp.result_eq, Results.proceed_of_success hp.isSuccess hp.remaining_eq,
      Run.bind_of_ok hq.result_eq, hq.isSuccess]
    rfl
  · rw [Results.remaining_append, hq.remaining_eq]
    rfl

/-- A failure after a success is the failure of the sequence. -/
theorem Succeeds.andThen_fails (hp : p.Succeeds r x s) (hq : q.Fails s f) :
    (p.andThen q).Fails r f := by
  simp only [Fails, Parser.andThen]
  rw [Run.bind_of_ok hp.result_eq, Results.proceed_of_success hp.isSuccess hp.remaining_eq,
    Run.bind_of_ok hq]
  rfl

/-- A halt after a success is the halt of the sequence. -/
theorem Succeeds.andThen_halts {e : Halt} (hp : p.Succeeds r x s)
    (hq : (q.parse s).result = .error e) : ((p.andThen q).parse r).result = .error e := by
  simp only [Parser.andThen]
  rw [Run.bind_of_ok hp.result_eq, Results.proceed_of_success hp.isSuccess hp.remaining_eq,
    Run.bind_of_error hq]

/-- What fails first keeps the rest of a sequence from being tried. -/
theorem Fails.andThen (hp : p.Fails r f) (q : Parser) : (p.andThen q).Fails r f := by
  simp only [Fails, Parser.andThen]
  rw [Run.bind_of_ok hp]
  rfl

/-- What succeeds first settles a choice. -/
theorem Succeeds.orElse (hp : p.Succeeds r x s) (q : Parser) : (p.orElse q).Succeeds r x s := by
  refine ⟨?_, hp.isSuccess, hp.remaining_eq⟩
  simp only [Parser.orElse]
  rw [Run.bind_of_ok hp.result_eq, hp.isSuccess]
  rfl

/-- What fails first leaves a choice to the other parser. -/
theorem Fails.result_orElse (hp : p.Fails r f) (q : Parser) :
    ((p.orElse q).parse r).result = (q.parse r).result := by
  simp only [Parser.orElse]
  rw [Run.bind_of_ok hp]
  rfl

/-- What the first part consumes is dropped. -/
theorem Succeeds.result_ignoreLeft (hp : p.Succeeds r x s) (q : Parser) :
    ((p.ignoreLeft q).parse r).result = (q.parse s).result := by
  simp only [Parser.ignoreLeft]
  rw [Run.bind_of_ok hp.result_eq, Results.proceed_of_success hp.isSuccess hp.remaining_eq]

/-- A description has no part in a success. -/
theorem Succeeds.describe (hp : p.Succeeds r x s) (description : Option String) :
    (p.describe description).Succeeds r x s :=
  ⟨hp.result_eq, hp.isSuccess, hp.remaining_eq⟩

/-- There is nothing to combine in a failure. -/
theorem Fails.fold (hp : p.Fails r f) (combine : List Datum → Except Fault Datum)
    (allowEmpty : Bool) : (p.fold combine allowEmpty).Fails r f := by
  simp only [Fails, Parser.fold]
  rw [Run.bind_of_ok hp]
  rfl

/-- Without a value there is nothing to combine. -/
theorem Succeeds.result_fold_of_nil (hp : p.Succeeds r x s) (hvalues : x.values = [])
    (combine : List Datum → Except Fault Datum) :
    ((p.fold combine false).parse r).result = .ok (.single (.empty s)) := by
  simp only [Parser.fold]
  rw [Run.bind_of_ok hp.result_eq, Results.proceed_of_success hp.isSuccess hp.remaining_eq, hvalues]
  rfl

/-- Values are replaced by what they are combined to. -/
theorem Succeeds.result_fold_of_ne_nil (hp : p.Succeeds r x s) (hvalues : x.values ≠ [])
    (combine : List Datum → Except Fault Datum) (allowEmpty : Bool) :
    ((p.fold combine allowEmpty).parse r).result
      = ((combine x.values).map fun v => .single (.value v s)).mapError .fault := by
  simp only [Parser.fold]
  rw [Run.bind_of_ok hp.result_eq, Results.proceed_of_success hp.isSuccess hp.remaining_eq,
    List.isEmpty_eq_false_iff.2 hvalues]
  cases combine x.values <;> rfl

/-- There is nothing to change in a failure. -/
theorem Fails.lift (hp : p.Fails r f) (g : Datum → Except Fault Datum) : (p.lift g).Fails r f := by
  simp only [Fails, Parser.lift]
  rw [Run.bind_of_ok hp]
  rfl

/-- The values of a success. -/
theorem Succeeds.values_eq (h : p.Succeeds r x s) : (p.values r).result = .ok (.ok x.values) := by
  obtain ⟨hx, hsuc, -⟩ := h
  obtain ⟨head, tail⟩ := x
  rw [values, Run.bind_of_ok hx]
  cases head with
  | failure f => cases hsuc
  | value v rest => rfl
  | empty rest => rfl

/-- A failure is handed out in place of values. -/
theorem Fails.values_eq (h : p.Fails r f) : (p.values r).result = .ok (.error f) := by
  rw [values, Run.bind_of_ok h]
  rfl

end Parser

/-! ## Taking a text -/

/-- The outcomes take the text `u` from `r` and leave `s`: the characters of `u` are the tokens up
to `s`, and they are the values in order. -/
structure Taken (r : Span) (os : List Outcome) (u : List Char) (s : Span) : Prop where
  within : s.Within r
  tokens_eq : r.tokens = u.map Datum.char ++ s.tokens
  values_eq : os.filterMap Outcome.value? = u.map Datum.char
  orElse_eq : (Results.lastRest? os <|> some r) = some s

namespace Taken

variable {r s t : Span} {os ps : List Outcome} {u v w : List Char} {x : Results}

/-- Nothing is taken on the spot. -/
theorem nil (r : Span) : Taken r [] [] r :=
  ⟨.refl r, rfl, rfl, rfl⟩

/-- What is taken after something else. -/
theorem append (hos : Taken r os u s) (hps : Taken s ps v t) :
    Taken r (os ++ ps) (u ++ v) t where
  within := hps.within.trans hos.within
  tokens_eq := by rw [hos.tokens_eq, hps.tokens_eq, List.map_append, List.append_assoc]
  values_eq := by rw [List.filterMap_append, hos.values_eq, hps.values_eq, List.map_append]
  orElse_eq := Results.lastRest?_append_orElse hos.orElse_eq hps.orElse_eq

/-- A window is as long as what is taken and what is left. -/
theorem length_eq (h : Taken r os u s) : r.length = u.length + s.length := by
  rw [← Span.length_tokens, h.tokens_eq, List.length_append, List.length_map, Span.length_tokens]

/-- What is left starts after what is taken. -/
theorem start_eq (h : Taken r os u s) : s.start = r.start + u.length := by
  have hlength : r.length = u.length + s.length := h.length_eq
  have := h.within.start_le
  have := h.within.stop_eq
  have := s.start_le_stop
  simp only [Span.length] at hlength
  omega

/-- The window that is left is reached by advancing by the text that is taken. -/
theorem tail_eq (h : Taken r os u s) : r.tail u.length = .ok s := by
  have hle : u.length ≤ r.length := by
    rw [h.length_eq]
    exact Nat.le_add_right ..
  have hwithin : s.Within (r.drop u.length hle) :=
    ⟨h.within.source_eq, h.within.stop_eq, Nat.le_of_eq h.start_eq.symm⟩
  rw [Span.tail_ofNat r u.length hle, hwithin.eq_of_start_eq h.start_eq]

/-- What is shown is the text that is taken and the text that is left. -/
theorem eq_append (h : Taken r os u s) (hr : r.Shows w) (hs : s.Shows v) : w = u ++ v := by
  apply List.map_injective_iff.2 Datum.char_injective
  rw [List.map_append, ← hs, ← h.tokens_eq, hr]

/-- Successful results leave the window that their outcomes leave. -/
theorem remaining_eq (h : Taken r x.toList u s) (hsuc : x.isSuccess = true) :
    x.remaining = some s := by
  obtain ⟨rest, hrest⟩ := Results.exists_remaining_of_success hsuc
  have horElse := h.orElse_eq
  rw [← Results.remaining, hrest] at horElse
  rw [hrest]
  exact horElse

end Taken

namespace Parser

variable {p q : Parser} {r s t : Span} {u v w : List Char} {f : Failure}

/-- `p` succeeds on `r` with outcomes that take the text `u` and leave `s`. -/
def Takes (p : Parser) (r : Span) (u : List Char) (s : Span) : Prop :=
  ∃ x, (p.parse r).result = .ok x ∧ x.isSuccess = true ∧ Taken r x.toList u s

/-- A parser that takes something succeeds. -/
theorem Takes.exists_succeeds (h : p.Takes r u s) :
    ∃ x, p.Succeeds r x s ∧ Taken r x.toList u s := by
  obtain ⟨x, hx, hsuc, htaken⟩ := h
  exact ⟨x, ⟨hx, hsuc, htaken.remaining_eq hsuc⟩, htaken⟩

/-- A parser that takes something gives outcomes for it. -/
theorem Takes.exists_taken (h : p.Takes r u s) : ∃ os, Taken r os u s := by
  obtain ⟨x, -, htaken⟩ := h.exists_succeeds
  exact ⟨x.toList, htaken⟩

/-- A parser that takes something does not fail. -/
theorem Takes.not_fails (h : p.Takes r u s) : ¬ p.Fails r f := by
  obtain ⟨x, hx, -⟩ := h.exists_succeeds
  exact hx.not_fails

/-- The values of what is taken are its characters. -/
theorem Takes.values_eq (h : p.Takes r u s) :
    (p.values r).result = .ok (.ok (u.map Datum.char)) := by
  obtain ⟨x, hx, htaken⟩ := h.exists_succeeds
  have hvalues : x.values = u.map Datum.char := htaken.values_eq
  rw [hx.values_eq, hvalues]

/-- A character that is shown first and accepted is taken. -/
theorem exists_takes_satisfy {accepts : Datum → Except Fault Bool} {description : String} {c : Char}
    (hr : r.Shows (c :: w)) (hc : accepts (Datum.char c) = .ok true) :
    ∃ s, s.Shows w ∧ (satisfy accepts description).Takes r [c] s := by
  obtain ⟨h1, hx⟩ := succeeds_satisfy description hr hc
  have hrest : (r.drop 1 h1).Shows w := by
    rw [Span.Shows, Span.tokens_drop, hr]
    rfl
  refine ⟨r.drop 1 h1, hrest, _, hx.result_eq, rfl, (Span.Within.refl r).drop 1 h1, ?_, rfl, rfl⟩
  rw [hr, hrest]
  rfl

/-- At the end there is nothing to take. -/
theorem takes_done (hr : r.Shows []) : done.Takes r [] r :=
  ⟨_, (succeeds_done hr).result_eq, rfl, .refl r, rfl, rfl, rfl⟩

/-- One parser takes what follows after what another one has taken. -/
theorem Takes.andThen (hp : p.Takes r u s) (hq : q.Takes s v t) :
    (p.andThen q).Takes r (u ++ v) t := by
  obtain ⟨x, hx, hxtaken⟩ := hp.exists_succeeds
  obtain ⟨y, hy, hytaken⟩ := hq.exists_succeeds
  have hxy := hx.andThen hy
  exact ⟨x ++ y, hxy.result_eq, hxy.isSuccess, hxtaken.append hytaken⟩

/-- A failure after something was taken. -/
theorem Takes.andThen_fails (hp : p.Takes r u s) (hq : q.Fails s f) : (p.andThen q).Fails r f := by
  obtain ⟨x, hx, -⟩ := hp.exists_succeeds
  exact hx.andThen_fails hq

/-! ## Repetitions -/

section Repeats

variable {os : List Outcome} (hp : p.Contained) (hos : p.Repeats s os t) (ht : p.Stays t)
include hp hos ht

/-- A loop with enough room gives the outcomes of all the successes up to where its parser stays. -/
theorem Contained.result_again_of_repeats {room : Nat} (hroom : s.length < room) :
    (p.again room s).result = .ok (os, true) := by
  induction hos generalizing room with
  | stop s =>
    cases room with
    | zero => omega
    | succ room => exact result_again_of_stays ht room
  | step hx hmoved _ ih =>
    cases room with
    | zero => omega
    | succ room =>
      have hshorter := hp.length_lt hx.result_eq hx.remaining_eq hmoved
      have hagain := ih ht (by omega : _ < room)
      rw [again_of_advances hx.result_eq hx.isSuccess hx.remaining_eq hmoved,
        Run.bind_of_ok hx.result_eq, Run.bind_of_ok hagain]
      rfl

/-- So does a repetition, if there is a success to begin with. -/
theorem Contained.exists_succeeds_oneOrMore (hne : os ≠ []) {cap : Int} (hcap : s.length < cap) :
    ∃ x, x.toList = os ∧ (p.oneOrMore cap none).Succeeds s x t := by
  cases hos with
  | stop => exact absurd rfl hne
  | @step _ s' _ x os hx hmoved hrest =>
    have hshorter := hp.length_lt hx.result_eq hx.remaining_eq hmoved
    have hroom : s'.length < cap.toNat - 1 := by omega
    have hagain := hp.result_again_of_repeats hrest ht hroom
    have hrepeated : p.Repeated s (x.extend os) t := ⟨x, s', os, hx, hrest, rfl⟩
    exact ⟨x.extend os, rfl,
      result_oneOrMore_of_again hx.result_eq hx.isSuccess hx.remaining_eq hagain,
      hx.isSuccess, hrepeated.remaining_eq⟩

end Repeats

section Repetition

variable {good : List Char → Prop}
  (hp : ∀ s, s.Within r → (∃ f, p.Fails s f) ∨ ∃ u t, good u ∧ u ≠ [] ∧ p.Takes s u t)
include hp

/-- If a parser fails or takes something wherever it is applied, a loop with enough room takes texts
until it fails.  The induction is on the room; every text makes the window shorter. -/
theorem exists_again_taken {room : Nat} (hs : s.Within r) (hroom : s.length < room) :
    ∃ (us : List (List Char)) (t : Span) (os : List Outcome), (∀ u ∈ us, good u) ∧
      (∃ f, p.Fails t f) ∧ (p.again room s).result = .ok (os, true) ∧
      Taken s os us.flatten t := by
  induction room generalizing s with
  | zero => omega
  | succ room ih =>
    rcases hp s hs with ⟨f, hf⟩ | ⟨u, t, hu, hne, x, hx, hsuc, htaken⟩
    · exact ⟨[], s, [], List.forall_mem_nil good, ⟨f, hf⟩, result_again_of_stays hf.stays room,
        .nil s⟩
    · -- a text that is not empty moves the window and shortens it
      have hpos : 0 < u.length := List.length_pos_iff.2 hne
      have hlength : s.length = u.length + t.length := htaken.length_eq
      have hmoved : t.start ≠ s.start := by
        rw [htaken.start_eq]
        omega
      obtain ⟨us, t', os, hus, hf, hagain, hos⟩ := ih (htaken.within.trans hs) (by omega)
      refine ⟨u :: us, t', x.toList ++ os, List.forall_mem_cons.2 ⟨hu, hus⟩, hf, ?_,
        htaken.append hos⟩
      rw [again_of_advances hx hsuc (htaken.remaining_eq hsuc) hmoved, Run.bind_of_ok hx,
        Run.bind_of_ok hagain]
      rfl

/-- So does a repetition. -/
theorem exists_takes_zeroOrMore {cap : Int} (hcap : r.length + 1 < cap) :
    ∃ (us : List (List Char)) (t : Span), (∀ u ∈ us, good u) ∧ (∃ f, p.Fails t f) ∧
      (p.zeroOrMore cap none).Takes r us.flatten t := by
  rcases hp r (.refl r) with ⟨f, hf⟩ | ⟨u, s, hu, hne, x, hx, hsuc, htaken⟩
  · have hresult := result_zeroOrMore_of_failure hf rfl cap none
    exact ⟨[], r, List.forall_mem_nil good, ⟨f, hf⟩, _, hresult, rfl, .refl r, rfl, rfl, rfl⟩
  · have hroom : s.length < cap.toNat - 1 := by
      have hlength : r.length = u.length + s.length := htaken.length_eq
      omega
    obtain ⟨us, t, os, hus, hf, hagain, hos⟩ := exists_again_taken hp htaken.within hroom
    refine ⟨u :: us, t, List.forall_mem_cons.2 ⟨hu, hus⟩, hf, x.extend os, ?_, hsuc,
      htaken.append hos⟩
    rw [zeroOrMore_eq_oneOrMore hx hsuc]
    exact result_oneOrMore_of_again hx hsuc (htaken.remaining_eq hsuc) hagain

end Repetition

end Parser

end TokenGrammar
