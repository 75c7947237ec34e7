import TextTemplate.Proofs.Quoting.Braces
import TextTemplate.Proofs.Scan.Answers
import TextTemplate.Quoting

/-! # Chains are flat

A chain asks its members for their answers in two passes: a span may start where any member
says so, and it is the span of the first member that says so and takes any bytes.  A member that
says so and takes nothing is passed over, and so is a chain of such members.  So it does not
matter how ways of quoting are grouped into chains (`QuoteChain.Groups`): a chain answers like
the flat chain of the ways in it (`QuoteChain.Groups.alike`), and where ways of quoting answer
alike, templates are read alike (`Quoting.Alike.parse_eq`). -/
namespace TextTemplate

namespace Quoting

/-! ## Answers of a chain -/

/-- The way of quoting finds a span with bytes in it. -/
def finds (q : Quoting) (text : List Char) : Bool :=
  q.starts text && 0 < (q.extract text).consumed

@[simp] theorem starts_chain (members : List Quoting) (text : List Char) :
    (chain members).starts text = startsAny members text := by
  rw [starts]

@[simp] theorem extract_chain (members : List Quoting) (text : List Char) :
    (chain members).extract text = extractFirst members text := by
  rw [extract]

theorem extractFirst_cons (q : Quoting) (members : List Quoting) (text : List Char) :
    extractFirst (q :: members) text =
      if q.finds text then q.extract text else extractFirst members text := by
  rw [extractFirst, finds]

theorem startsAny_eq_any (members : List Quoting) (text : List Char) :
    startsAny members text = members.any (·.starts text) := by
  induction members with
  | nil => rw [startsAny, List.any_nil]
  | cons q members ih => rw [startsAny, ih, List.any_cons]

/-- The span of a chain is that of the first member that finds one. -/
theorem extractFirst_eq_find? (members : List Quoting) (text : List Char) :
    extractFirst members text =
      ((members.find? (·.finds text)).map (·.extract text)).getD .nothing := by
  induction members with
  | nil => rw [extractFirst]; rfl
  | cons q members ih =>
    rw [extractFirst_cons, List.find?_cons, ih]
    cases q.finds text <;> rfl

/-- A chain without a span gives the answer for none; and where it gives a span, it says that
one may start there. -/
theorem extractFirst_eq_nothing_or (members : List Quoting) (text : List Char) :
    extractFirst members text = .nothing ∨ (chain members).finds text = true := by
  cases hfind : members.find? (·.finds text) with
  | none =>
    left
    rw [extractFirst_eq_find?, hfind]
    rfl
  | some q =>
    have hspan : extractFirst members text = q.extract text := by
      rw [extractFirst_eq_find?, hfind]
      rfl
    obtain ⟨hstarts, hpos⟩ : q.starts text = true ∧ 0 < (q.extract text).consumed := by
      simpa [finds] using List.find?_some hfind
    right
    simp only [finds, starts_chain, extract_chain, startsAny_eq_any, hspan, hpos,
      Bool.and_eq_true, List.any_eq_true, decide_true, and_true]
    exact ⟨q, List.mem_of_find?_eq_some hfind, hstarts⟩

/-- Members behind others are asked where those find nothing. -/
theorem extractFirst_append (front back : List Quoting) (text : List Char) :
    extractFirst (front ++ back) text =
      if 0 < (extractFirst front text).consumed then extractFirst front text
      else extractFirst back text := by
  induction front with
  | nil => simp [extractFirst, Quoted.nothing]
  | cons q front ih =>
    rw [List.cons_append, extractFirst_cons, extractFirst_cons, ih]
    by_cases hq : q.finds text = true
    · have hpos : 0 < (q.extract text).consumed := by simp_all [finds]
      rw [if_pos hq, if_pos hq, if_pos hpos]
    · rw [if_neg hq, if_neg hq]

/-! ## Ways of quoting that answer alike -/

/-- The ways of quoting give the same answers to every text. -/
def Alike (p q : Quoting) : Prop :=
  ∀ text, p.starts text = q.starts text ∧ p.extract text = q.extract text

variable {p q r : Quoting}

theorem Alike.refl (q : Quoting) : q.Alike q := fun _ => ⟨rfl, rfl⟩

theorem Alike.symm (h : p.Alike q) : q.Alike p := fun text => ⟨(h text).1.symm, (h text).2.symm⟩

theorem Alike.trans (h : p.Alike q) (h' : q.Alike r) : p.Alike r :=
  fun text => ⟨(h text).1.trans (h' text).1, (h text).2.trans (h' text).2⟩

/-- A chain in a chain of its own answers as it does by itself. -/
theorem alike_nested (members : List Quoting) : (chain [chain members]).Alike (chain members) := by
  intro text
  refine ⟨by simp [startsAny], ?_⟩
  rw [extract_chain, extractFirst_cons, extract_chain]
  split
  · rfl
  · rename_i hfinds
    rcases extractFirst_eq_nothing_or members text with hnone | hsome
    · rw [hnone, extractFirst]
    · exact absurd hsome hfinds

/-- Parts of a chain that answer alike can stand for each other. -/
theorem Alike.append {xs xs' ys ys' : List Quoting} (hx : (chain xs).Alike (chain xs'))
    (hy : (chain ys).Alike (chain ys')) : (chain (xs ++ ys)).Alike (chain (xs' ++ ys')) := by
  intro text
  obtain ⟨hstartsX, hextractX⟩ := hx text
  obtain ⟨hstartsY, hextractY⟩ := hy text
  simp only [starts_chain, extract_chain] at hstartsX hextractX hstartsY hextractY ⊢
  constructor
  · rw [startsAny_eq_any, startsAny_eq_any] at hstartsX hstartsY
    rw [startsAny_eq_any, startsAny_eq_any, List.any_append, List.any_append, hstartsX, hstartsY]
  · rw [extractFirst_append, extractFirst_append, hextractX, hextractY]

theorem Alike.take?_eq (h : p.Alike q) (text : List Char) : p.take? text = q.take? text := by
  rw [take?, take?, (h text).1, (h text).2]

/-- Templates are read alike where names are quoted alike and parameters are. -/
theorem Alike.parse_eq {p' q' : Quoting} (hnames : p.Alike q) (hparameters : p'.Alike q')
    (d : Dialect) (text : String) :
    Dialect.parse { d with names := p, parameters := p' } text =
      Dialect.parse { d with names := q, parameters := q' } text := by
  have hanswers : Dialect.AnswersAlike { d with names := p, parameters := p' }
      { d with names := q, parameters := q' } := by
    refine ⟨fun _ => rfl, fun δ _ => by cases δ <;> rfl, fun level text => ?_⟩
    cases level with
    | literal => rfl
    | «variable» | pipe => exact hnames.take?_eq text
    | parameter => exact hparameters.take?_eq text
  exact hanswers.parse_eq text

end Quoting

namespace QuoteChain

/-! ## Groupings -/

/-- The ways of quoting that a chain groups, in their order.  Its members, whether it is made of
them or grown by them, are such ways or chains that group some. -/
inductive Groups : QuoteChain → List Quoting → Prop
  | empty : Groups ⟨[]⟩ []
  | way {members ways : List Quoting} (q : Quoting) (h : Groups ⟨members⟩ ways) :
      Groups ⟨q :: members⟩ (q :: ways)
  | chain {c : QuoteChain} {members front back : List Quoting} (hc : Groups c front)
      (h : Groups ⟨members⟩ back) : Groups ⟨c.toQuoting :: members⟩ (front ++ back)
  | andThenWay {c : QuoteChain} {ways : List Quoting} (h : Groups c ways) (q : Quoting) :
      Groups (c.andThen q) (ways ++ [q])
  | andThenChain {c c' : QuoteChain} {front back : List Quoting} (h : Groups c front)
      (hc : Groups c' back) : Groups (c.andThen c'.toQuoting) (front ++ back)

theorem groups_mk (ways : List Quoting) : Groups ⟨ways⟩ ways := by
  induction ways with
  | nil => exact .empty
  | cons q ways ih => exact .way q ih

/-- A chain that is grown by its members is made of them. -/
theorem foldl_andThen (c : QuoteChain) (ways : List Quoting) :
    ways.foldl andThen c = ⟨c.members ++ ways⟩ := by
  induction ways generalizing c with
  | nil => simp
  | cons q ways ih => rw [List.foldl_cons, ih, members_andThen, List.append_assoc]; rfl

/-- **A chain answers like the flat chain of what it groups.** -/
theorem Groups.alike {c : QuoteChain} {ways : List Quoting} (h : c.Groups ways) :
    c.toQuoting.Alike (.chain ways) := by
  induction h with
  | empty => exact .refl _
  | way q _ ih => exact Quoting.Alike.append (.refl (.chain [q])) ih
  | @chain c members front back _ _ ihc ih =>
    exact Quoting.Alike.append ((Quoting.alike_nested c.members).trans ihc) ih
  | andThenWay _ q ih => exact Quoting.Alike.append ih (.refl (.chain [q]))
  | @andThenChain c c' front back _ _ ih ihc =>
    exact Quoting.Alike.append ih ((Quoting.alike_nested c'.members).trans ihc)

/-- Chains of the same ways of quoting answer alike, however they are grouped. -/
theorem Groups.alike_of_groups {c c' : QuoteChain} {ways : List Quoting} (h : c.Groups ways)
    (h' : c'.Groups ways) : c.toQuoting.Alike c'.toQuoting :=
  h.alike.trans h'.alike.symm

/-- A chain has the span of the first way that finds one. -/
theorem Groups.extract_eq {c : QuoteChain} {ways : List Quoting} (h : c.Groups ways)
    (text : List Char) :
    c.toQuoting.extract text =
      ((ways.find? (·.finds text)).map (·.extract text)).getD .nothing := by
  rw [(h.alike text).2, Quoting.extract_chain, Quoting.extractFirst_eq_find?]

/-- Ways that find nothing can be left out in front. -/
theorem Groups.extract_eq_of_idle {c : QuoteChain} {front back : List Quoting}
    {text : List Char} (h : c.Groups (front ++ back))
    (hidle : ∀ q ∈ front, q.starts text = true → (q.extract text).consumed = 0) :
    c.toQuoting.extract text = (Quoting.chain back).extract text := by
  have hnone : front.find? (·.finds text) = none := by
    rw [List.find?_eq_none]
    intro q hq hfinds
    obtain ⟨hstarts, hpos⟩ : q.starts text = true ∧ 0 < (q.extract text).consumed := by
      simpa [Quoting.finds] using hfinds
    have hzero := hidle q hq hstarts
    omega
  rw [h.extract_eq, List.find?_append, hnone, Option.none_or, ← Quoting.extractFirst_eq_find?,
    Quoting.extract_chain]

/-- **Chains are flat.**  However ways of quoting are grouped into chains, a span may start where
any of them says so, and it is the answer of the first that says so and takes any bytes, or no
span if there is none; this is what the flat chain answers, whether it is made of the ways or
grown by them, and templates are read alike with either.  So chains of two may be regrouped, an
empty chain may be left out, and ways that take nothing do not stand in front of others. -/
theorem groupings_alike :
    (∀ (c : QuoteChain) (ways : List Quoting), c.Groups ways → ∀ text : List Char,
      (c.toQuoting.starts text = true ↔ ∃ q ∈ ways, q.starts text = true) ∧
        c.toQuoting.extract text = ((ways.find? fun q =>
          q.starts text && 0 < (q.extract text).consumed).map (·.extract text)).getD ⟨0, []⟩) ∧
    (∀ (c c' : QuoteChain) (ways : List Quoting), c.Groups ways → c'.Groups ways →
      c.toQuoting.Alike c'.toQuoting ∧ ∀ (d : Dialect) (text : String),
        Dialect.parse { d with names := c.toQuoting } text =
            Dialect.parse { d with names := c'.toQuoting } text ∧
          Dialect.parse { d with parameters := c.toQuoting } text =
            Dialect.parse { d with parameters := c'.toQuoting } text) ∧
    (∀ ways : List Quoting, Groups ⟨ways⟩ ways ∧ (ways.foldl andThen empty).Groups ways) ∧
    (∀ a b c : Quoting,
      (Quoting.chain [.chain [a, b], c]).Alike (.chain [a, .chain [b, c]])) ∧
    (∀ c : QuoteChain, (Quoting.chain [empty.toQuoting, c.toQuoting]).Alike c.toQuoting ∧
      (Quoting.chain [c.toQuoting, empty.toQuoting]).Alike c.toQuoting) ∧
    ∀ (c : QuoteChain) (front back : List Quoting) (text : List Char), c.Groups (front ++ back) →
      (∀ q ∈ front, q.starts text = true → (q.extract text).consumed = 0) →
      c.toQuoting.extract text = (Quoting.chain back).extract text := by
  refine ⟨fun c ways h text => ⟨?_, h.extract_eq text⟩, fun c c' ways h h' => ?_,
    fun ways => ⟨groups_mk ways, ?_⟩, fun a b c => ?_, fun c => ?_,
    fun c front back text h => h.extract_eq_of_idle⟩
  · rw [(h.alike text).1, Quoting.starts_chain, Quoting.startsAny_eq_any, List.any_eq_true]
  · have halike := h.alike_of_groups h'
    exact ⟨halike, fun d text => ⟨halike.parse_eq (.refl d.parameters) d text,
      (Quoting.Alike.refl d.names).parse_eq halike d text⟩⟩
  · rw [foldl_andThen, members_empty, List.nil_append]
    exact groups_mk ways
  · have hleft : Groups ⟨[.chain [a, b], c]⟩ [a, b, c] :=
      .chain (groups_mk [a, b]) (groups_mk [c])
    have hright : Groups ⟨[a, .chain [b, c]]⟩ [a, b, c] :=
      .way a (.chain (groups_mk [b, c]) .empty)
    exact hleft.alike_of_groups hright
  · have hself : c.Groups c.members := groups_mk c.members
    have hfront : Groups ⟨[empty.toQuoting, c.toQuoting]⟩ ([] ++ (c.members ++ [])) :=
      .chain .empty (.chain hself .empty)
    have hback : Groups ⟨[c.toQuoting, empty.toQuoting]⟩ (c.members ++ ([] ++ [])) :=
      .chain hself (.chain .empty .empty)
    simp only [List.append_nil, List.nil_append] at hfront hback
    exact ⟨hfront.alike_of_groups hself, hback.alike_of_groups hself⟩

end QuoteChain

/-- A way of quoting that may start anywhere and takes nothing. -/
def Quoting.idle : Quoting := .custom (fun _ => true) fun _ => ⟨0, ['!']⟩

/-- A chain of two chains, the first of a way that takes nothing. -/
def QuoteChain.idleFirst : QuoteChain :=
  (QuoteChain.empty.andThen (.chain [.idle])).andThen (.chain [.standardBraces, .standard])

/-- What takes nothing hides neither braces nor quotation marks, and the chains in the chain are
not seen. -/
theorem QuoteChain.groupings_alike_idle :
    idleFirst.Groups [.idle, .standardBraces, .standard] ∧
      (∀ q ∈ [Quoting.idle], q.starts "\x7bx\x7dy".toList = true →
        (q.extract "\x7bx\x7dy".toList).consumed = 0) ∧
      idleFirst.toQuoting.extract "\x7bx\x7dy".toList = ⟨3, ['x']⟩ ∧
      idleFirst.toQuoting.extract "\x7bx\x7dy".toList =
        (Quoting.chain [.standardBraces, .standard]).extract "\x7bx\x7dy".toList ∧
      Dialect.parse { Dialect.standard with parameters := idleFirst.toQuoting }
          "$\x7bv|p:\x7b:\x7d:':'" = .ok ⟨["", ""], [⟨"v", [⟨"p", [":", ":"]⟩]⟩]⟩ := by
  obtain ⟨hanswers, hsame, hflat, -, -, hidle⟩ := groupings_alike
  have hfirst : (empty.andThen (.chain [.idle])).Groups [.idle] :=
    .andThenChain .empty (groups_mk [.idle])
  have hgroups : idleFirst.Groups [.idle, .standardBraces, .standard] :=
    .andThenChain hfirst (groups_mk [.standardBraces, .standard])
  have hzero : ∀ q ∈ [Quoting.idle], q.starts "\x7bx\x7dy".toList = true →
      (q.extract "\x7bx\x7dy".toList).consumed = 0 := by decide +kernel
  refine ⟨hgroups, hzero, ?_, hidle _ [.idle] _ _ hgroups hzero, ?_⟩
  · rw [(hanswers _ _ hgroups _).2]
    decide +kernel
  · rw [((hsame _ _ _ hgroups (hflat _).1).2 .standard _).2]
    exact Dialect.parse_eq_ok (by decide +kernel)

end TextTemplate
