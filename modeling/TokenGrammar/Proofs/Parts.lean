/-
# The parts of a grammar

A grammar is put together from parts, and what holds of the leaves that it reaches holds of its
parser.  Names are looked through on the way: the grammar of a name is a part of a reference to it.
The main result takes a correspondence from the leaves of a grammar to its parser, with references
nested to any depth.  It also compares a grammar with itself after the failures that it was given
have been exchanged for others.
-/
import Mathlib.Logic.Relation
import TokenGrammar.Grammar.Basic
import TokenGrammar.Proofs.Combinators

namespace TokenGrammar

namespace Grammar

/-- The direct parts of a grammar: its operands, what a continuation gives for any value, and the
grammar of a name. -/
def HasPart (names : Names) : Grammar → Grammar → Prop
  | .andThen p q, h | .orElse p q, h | .ignoreLeft p q, h | .ignoreRight p q, h => h = p ∨ h = q
  | .ignore p, h | .oneOrMore p _, h | .zeroOrMore p _, h | .optional p _, h | .fold p _ _, h
  | .lift p _, h | .check p _ _, h | .describe p _, h => h = p
  | .bind p k, h => h = p ∨ ∃ v, h = k v
  | .reference name _, h => names name = some h
  | _, _ => False

/-- The parts of a grammar, their parts, and so on. -/
def Reaches (names : Names) : Grammar → Grammar → Prop :=
  Relation.ReflTransGen (HasPart names)

/-- A failure that some parser inside a grammar was given to fail with. -/
def Gives (names : Names) (g : Grammar) (f : Failure) : Prop :=
  g.Reaches names (.zero f)

variable {names : Names} {g h h' : Grammar}

/-- What a part reaches is reached. -/
theorem Reaches.of_part (hh : g.HasPart names h) (hr : h.Reaches names h') :
    g.Reaches names h' :=
  .head hh hr

/-- Something that holds of a grammar and of everything that it reaches. -/
def Everywhere (names : Names) (P : Grammar → Prop) (g : Grammar) : Prop :=
  ∀ h, g.Reaches names h → P h

namespace Everywhere

variable {P : Grammar → Prop}

/-- What holds everywhere holds of the grammar itself. -/
theorem self (hg : g.Everywhere names P) : P g :=
  hg g .refl

/-- What holds everywhere holds everywhere in a part. -/
theorem part (hg : g.Everywhere names P) (hh : g.HasPart names h) : h.Everywhere names P :=
  fun h' hr => hg h' (.of_part hh hr)

/-- What holds everywhere holds everywhere in what is reached. -/
theorem of_reaches (hg : g.Everywhere names P) (hh : g.Reaches names h) :
    h.Everywhere names P :=
  fun h' hr => hg h' (hh.trans hr)

/-- What holds of a grammar and everywhere in its parts holds everywhere in it. -/
theorem of_parts (hg : P g) (hparts : ∀ h, g.HasPart names h → h.Everywhere names P) :
    g.Everywhere names P := by
  intro h' hr
  rcases Relation.ReflTransGen.cases_head hr with rfl | ⟨h, hh, hr'⟩
  · exact hg
  · exact hparts h hh h' hr'

/-- What holds everywhere in the tree of a grammar and in the trees of all named grammars holds
everywhere, however the names refer to each other. -/
theorem of_names (hg : g.Everywhere (fun _ => none) P)
    (hnames : ∀ name body, names name = some body → body.Everywhere (fun _ => none) P) :
    g.Everywhere names P := by
  intro h hr
  have htree : h.Everywhere (fun _ => none) P := by
    induction hr with
    | refl => exact hg
    | @tail h h' _ hh ih =>
      cases h with
      | reference name description => exact hnames name h' hh
      | _ => exact ih.part hh
  exact htree.self

end Everywhere

/-! ## Induction on parts -/

/-- What is a part without regard to names is a part. -/
theorem HasPart.of_none (hh : g.HasPart (fun _ => none) h) : g.HasPart names h := by
  cases g with
  | reference name description => cases hh
  | _ => exact hh

/-- What holds of a grammar as soon as it holds of its operands holds of every grammar. -/
theorem induction_parts {P : Grammar → Prop}
    (step : ∀ g, (∀ h, g.HasPart (fun _ => none) h → P h) → P g) (g : Grammar) : P g := by
  induction g with
  | satisfy _ _ | regex _ _ | succeed _ | empty | done | zero _ | fault _ | notParser =>
    exact step _ nofun
  | reference _ _ => exact step _ nofun
  | andThen _ _ ihp ihq | orElse _ _ ihp ihq | ignoreLeft _ _ ihp ihq | ignoreRight _ _ ihp ihq =>
    refine step _ ?_
    rintro _ (rfl | rfl)
    · exact ihp
    · exact ihq
  | ignore _ ih | oneOrMore _ _ ih | zeroOrMore _ _ ih | optional _ _ ih | fold _ _ _ ih
  | lift _ _ ih | check _ _ _ ih | describe _ _ ih =>
    refine step _ ?_
    rintro _ rfl
    exact ih
  | bind p k ihp ihk =>
    refine step _ ?_
    rintro _ (rfl | ⟨v, rfl⟩)
    · exact ihp
    · exact ihk v

/-! ## Other failures in place of the given ones -/

/-- The grammar in which every parser that always fails is given another failure to fail with. -/
def mapZero (swap : Failure → Failure) : Grammar → Grammar
  | .zero f => .zero (swap f)
  | .andThen p q => .andThen (p.mapZero swap) (q.mapZero swap)
  | .orElse p q => .orElse (p.mapZero swap) (q.mapZero swap)
  | .ignore p => .ignore (p.mapZero swap)
  | .ignoreLeft p q => .ignoreLeft (p.mapZero swap) (q.mapZero swap)
  | .ignoreRight p q => .ignoreRight (p.mapZero swap) (q.mapZero swap)
  | .oneOrMore p bound => .oneOrMore (p.mapZero swap) bound
  | .zeroOrMore p bound => .zeroOrMore (p.mapZero swap) bound
  | .optional p default => .optional (p.mapZero swap) default
  | .fold p combine allowEmpty => .fold (p.mapZero swap) combine allowEmpty
  | .lift p f => .lift (p.mapZero swap) f
  | .check p accepts description => .check (p.mapZero swap) accepts description
  | .bind p k => .bind (p.mapZero swap) fun v => (k v).mapZero swap
  | .describe p description => .describe (p.mapZero swap) description
  | g => g

/-- Exchanging failures for themselves changes nothing. -/
@[simp]
theorem mapZero_id (g : Grammar) : g.mapZero id = g := by
  induction g with
  | bind p k ihp ihk => rw [mapZero, ihp, funext ihk]
  | _ => simp_all only [mapZero, id]

end Grammar

/-- The names with the failures exchanged in all their grammars. -/
def Names.mapZero (names : Names) (swap : Failure → Failure) : Names :=
  fun name => (names name).map (Grammar.mapZero swap)

/-- The same for the grammars of names. -/
@[simp]
theorem Names.mapZero_id (names : Names) : names.mapZero id = names := by
  funext name
  cases h : names name with
  | none => rw [mapZero, h, Option.map_none]
  | some g => rw [mapZero, h, Option.map_some, g.mapZero_id]

namespace Grammar

/-- The parser of a grammar that was given other failures, and whose names were as well. -/
def parserGiven (g : Grammar) (swap : Failure → Failure) (names : Names) (cap : Int)
    (depth : Nat) : Parser :=
  (g.mapZero swap).parserIn (names.mapZero swap) cap depth

/-- With the failures that it was given, a grammar has its own parser. -/
@[simp]
theorem parserGiven_id (g : Grammar) (names : Names) (cap : Int) (depth : Nat) :
    g.parserGiven id names cap depth = g.parserIn names cap depth := by
  rw [parserGiven, mapZero_id, Names.mapZero_id]

/-! ## Properties of parsers -/

/-- What is known about the references that a grammar reaches. -/
def References (names : Names) (P : Parser → Prop) (apply : String → Span → Run Results)
    (cap : Int) : Grammar → Prop :=
  Everywhere names fun h =>
    ∀ name description, h = .reference name description → P (h.parser apply cap)

/-- A property of parsers goes from the references of a grammar to its parser, does not depend on
the description, and holds of the parsers that halt.  Then the parser of a grammar has it, however
deep references are nested.  `Q` restricts the grammars that are considered. -/
theorem parserIn_of_references {P : Parser → Prop} {Q : Grammar → Prop} {cap : Int}
    (hhalt : ∀ e, P (.halt e)) (hdescribe : ∀ p description, P p → P (p.describe description))
    (hparser : ∀ apply (g : Grammar), g.Everywhere names Q → g.References names P apply cap →
      P (g.parser apply cap))
    (depth : Nat) (g : Grammar) (hg : g.Everywhere names Q) : P (g.parserIn names cap depth) := by
  induction depth generalizing g with
  | zero =>
    refine hparser _ g hg ?_
    rintro _ _ name description rfl
    exact hdescribe _ description (hhalt .endless)
  | succ depth ih =>
    refine hparser _ g hg ?_
    rintro _ hreach name description rfl
    cases hname : names name with
    | none =>
      simp only [parser, resolve, hname]
      exact hdescribe _ description (hhalt (.fault (.unbound name)))
    | some body =>
      have hbody : body.Everywhere names Q := hg.of_reaches (hreach.trans (.single hname))
      simp only [parser, resolve, hname]
      exact hdescribe _ description (ih body hbody)

end Grammar

namespace Correspondence

variable {S : Correspondence} {swap swap' : Failure → Failure} {names : Names} {cap cap' : Int}

/-- The leaves that a grammar reaches correspond to themselves, as far as a correspondence leaves
that open, after the failures have been exchanged on both sides. -/
structure Admits (S : Correspondence) (swap swap' : Failure → Failure) (names : Names)
    (g : Grammar) : Prop where
  zero : ∀ f, g.Gives names f → S.failure (swap f) (swap' f)
  notParser : g.Reaches names .notParser → S.halt (.breach .notParser) (.breach .notParser)

/-- What a correspondence admits in a grammar it admits in a part. -/
theorem Admits.part {g h : Grammar} (hg : S.Admits swap swap' names g)
    (hh : g.HasPart names h) : S.Admits swap swap' names h :=
  ⟨fun f hf => hg.zero f (.of_part hh hf), fun hn => hg.notParser (.of_part hh hn)⟩

/-! ## One way to apply references and another -/

section References

variable {apply apply' : String → Span → Run Results}

/-- The references that a grammar reaches are applied in corresponding ways. -/
def ReferencesRel (S : Correspondence) (names : Names) (apply apply' : String → Span → Run Results)
    (g : Grammar) : Prop :=
  ∀ name description, g.Reaches names (.reference name description) →
    ∀ {r s}, S.window r s → S.RunRel S.ResultsRel (apply name r) (apply' name s)

/-- The references that a part reaches are among those of the grammar. -/
theorem ReferencesRel.part {g h : Grammar} (hg : S.ReferencesRel names apply apply' g)
    (hh : g.HasPart names h) : S.ReferencesRel names apply apply' h :=
  fun name description hr => hg name description (.of_part hh hr)

/-- If the grammar itself is a leaf or a reference, it corresponds to itself. -/
structure AdmitsLeaf (S : Correspondence) (swap swap' : Failure → Failure)
    (apply apply' : String → Span → Run Results) (g : Grammar) : Prop where
  zero : ∀ f, g = .zero f → S.failure (swap f) (swap' f)
  notParser : g = .notParser → S.halt (.breach .notParser) (.breach .notParser)
  reference : ∀ name description, g = .reference name description →
    ∀ {r s}, S.window r s → S.RunRel S.ResultsRel (apply name r) (apply' name s)

/-- A grammar has corresponding parsers under two ways of applying references, two caps and two
exchanges of failures as soon as its operands do. -/
theorem parserRel_mapZero_of_parts
    (hfree : ∀ p : Grammar,
      S.ParserRel ((p.mapZero swap).parser apply cap) ((p.mapZero swap').parser apply' cap') →
      S.FreeRel cap cap' ((p.mapZero swap).parser apply cap)
        ((p.mapZero swap').parser apply' cap'))
    {g : Grammar} (hleaf : S.AdmitsLeaf swap swap' apply apply' g)
    (hparts : ∀ h, g.HasPart (fun _ => none) h →
      S.ParserRel ((h.mapZero swap).parser apply cap) ((h.mapZero swap').parser apply' cap')) :
    S.ParserRel ((g.mapZero swap).parser apply cap) ((g.mapZero swap').parser apply' cap') := by
  cases g with
  | satisfy accepts description => exact parserRel_satisfy accepts description
  | regex pattern description => exact parserRel_regex pattern description
  | succeed v => exact parserRel_succeed v
  | empty => exact parserRel_empty
  | done => exact parserRel_done
  | zero f => exact parserRel_zero (hleaf.zero f rfl)
  | andThen p q => exact (hparts p (.inl rfl)).andThen (hparts q (.inr rfl))
  | orElse p q => exact (hparts p (.inl rfl)).orElse (hparts q (.inr rfl))
  | ignore p => exact (hparts p rfl).ignore
  | ignoreLeft p q => exact (hparts p (.inl rfl)).ignoreLeft (hparts q (.inr rfl))
  | ignoreRight p q => exact (hparts p (.inl rfl)).ignoreRight (hparts q (.inr rfl))
  | oneOrMore p bound => exact (hparts p rfl).oneOrMore (hfree p (hparts p rfl)) bound
  | zeroOrMore p bound => exact (hparts p rfl).zeroOrMore (hfree p (hparts p rfl)) bound
  | optional p default =>
    refine (hparts p rfl).optional ?_
    cases default with
    | none => exact parserRel_empty
    | some v => exact parserRel_succeed v
  | fold p combine allowEmpty => exact (hparts p rfl).fold combine allowEmpty
  | lift p f => exact (hparts p rfl).lift f
  | check p accepts description => exact (hparts p rfl).check accepts description
  | bind p k => exact (hparts p (.inl rfl)).bind fun v => hparts (k v) (.inr ⟨v, rfl⟩)
  | describe p description => exact (hparts p rfl).describe description
  | reference name description => exact ⟨rfl, fun h => hleaf.reference name description rfl h⟩
  | fault cause => exact parserRel_halt (S.halt_reflexive.fault cause)
  | notParser => exact parserRel_halt (hleaf.notParser rfl)

/-- A grammar has corresponding parsers under two ways of applying references, two caps and two
exchanges of failures, if its leaves, its references and all repetitions without a bound
correspond. -/
theorem parserRel_mapZero_of_leaves
    (hfree : ∀ p : Grammar,
      S.ParserRel ((p.mapZero swap).parser apply cap) ((p.mapZero swap').parser apply' cap') →
      S.FreeRel cap cap' ((p.mapZero swap).parser apply cap)
        ((p.mapZero swap').parser apply' cap'))
    (g : Grammar) (hleaf : S.Admits swap swap' names g)
    (href : S.ReferencesRel names apply apply' g) :
    S.ParserRel ((g.mapZero swap).parser apply cap) ((g.mapZero swap').parser apply' cap') := by
  induction g using Grammar.induction_parts with
  | step g ih =>
    refine parserRel_mapZero_of_parts hfree ⟨?_, ?_, ?_⟩ ?_
    · rintro f rfl
      exact hleaf.zero f .refl
    · rintro rfl
      exact hleaf.notParser .refl
    · rintro name description rfl r s h
      exact href name description .refl h
    · intro h hh
      exact ih h hh (hleaf.part hh.of_none) (href.part hh.of_none)

/-- The same for a grammar with the failures that it was given. -/
theorem parserRel_of_parts
    (hfree : ∀ p : Grammar, S.ParserRel (p.parser apply cap) (p.parser apply' cap') →
      S.FreeRel cap cap' (p.parser apply cap) (p.parser apply' cap'))
    {g : Grammar} (hleaf : S.AdmitsLeaf id id apply apply' g)
    (hparts : ∀ h, g.HasPart (fun _ => none) h →
      S.ParserRel (h.parser apply cap) (h.parser apply' cap')) :
    S.ParserRel (g.parser apply cap) (g.parser apply' cap') := by
  have h := @parserRel_mapZero_of_parts S id id cap cap' apply apply'
  simp only [Grammar.mapZero_id] at h
  exact h hfree hleaf hparts

/-- A grammar corresponds to itself if its leaves, its references and all repetitions without a
bound do. -/
theorem parserRel_of_leaves
    (hfree : ∀ p : Grammar, S.ParserRel (p.parser apply cap) (p.parser apply' cap') →
      S.FreeRel cap cap' (p.parser apply cap) (p.parser apply' cap'))
    (g : Grammar) (hleaf : S.Admits id id names g)
    (href : S.ReferencesRel names apply apply' g) :
    S.ParserRel (g.parser apply cap) (g.parser apply' cap') := by
  have h := @parserRel_mapZero_of_leaves S id id names cap cap' apply apply'
  simp only [Grammar.mapZero_id] at h
  exact h hfree g hleaf href

end References

/-! ## References nested to a depth -/

/-- The same for references that are looked up among names, with the same depth on both sides. -/
theorem parserRel_parserGiven (hend : S.halt .endless .endless) (depth : Nat)
    (hfree : ∀ d ≤ depth, ∀ p : Grammar,
      S.ParserRel (p.parserGiven swap names cap d) (p.parserGiven swap' names cap' d) →
        S.FreeRel cap cap' (p.parserGiven swap names cap d) (p.parserGiven swap' names cap' d))
    (g : Grammar) (hleaf : S.Admits swap swap' names g) :
    S.ParserRel (g.parserGiven swap names cap depth) (g.parserGiven swap' names cap' depth) := by
  induction depth generalizing g with
  | zero =>
    -- no depth is left, so that every reference halts on both sides
    exact parserRel_mapZero_of_leaves (hfree 0 (Nat.le_refl 0)) g hleaf
      fun _ _ _ _ _ _ => runRel_halt hend
  | succ depth ih =>
    refine parserRel_mapZero_of_leaves (hfree (depth + 1) (Nat.le_refl _)) g hleaf ?_
    intro name description hreach r s h
    simp only [Grammar.resolve, Names.mapZero]
    cases hname : names name with
    | none => exact runRel_halt (S.halt_reflexive.fault _)
    | some body =>
      -- what the body reaches, the reference reaches through its name
      have hbody : S.Admits swap swap' names body :=
        ⟨fun f hf => hleaf.zero f (hreach.trans (.head hname hf)),
          fun hn => hleaf.notParser (hreach.trans (.head hname hn))⟩
      exact (ih (fun d hd => hfree d (Nat.le_succ_of_le hd)) body hbody).parse h

/-- The same for a grammar with the failures that it was given. -/
theorem parserRel_parserIn (hend : S.halt .endless .endless) (depth : Nat)
    (hfree : ∀ d ≤ depth, ∀ p : Grammar,
      S.ParserRel (p.parserIn names cap d) (p.parserIn names cap' d) →
        S.FreeRel cap cap' (p.parserIn names cap d) (p.parserIn names cap' d))
    (g : Grammar) (hleaf : S.Admits id id names g) :
    S.ParserRel (g.parserIn names cap depth) (g.parserIn names cap' depth) := by
  have h := @parserRel_parserGiven S id id names cap cap' hend depth
  simp only [Grammar.parserGiven_id] at h
  exact h hfree g hleaf

end Correspondence

end TokenGrammar
