import Peg.Matching.Scan
import Peg.Proofs.Drafting
import Peg.Proofs.Termination

/-! Searching a text from left to right. A search runs the root at one position after the other and goes on
behind each match, so it misses nothing: where no match begins, a match goes on or the root fails. -/

namespace Peg

namespace Grammar

def MatchesAt (grammar : Grammar) (source : Source) (position : Nat) (found : Match) : Prop :=
  ∃ run, grammar.consume (source.seek position) none = .ok run ∧ run.outcome.matched = some found

/-- The root fails at this position of the source. A run that a limit ends has failed. -/
def FailsAt (grammar : Grammar) (source : Source) (position : Nat) : Prop :=
  ∃ run, grammar.consume (source.seek position) none = .ok run ∧ run.outcome.matched = none

/-- The root fails at each position from `start` up to, and without, `stop`. -/
def Barren (grammar : Grammar) (source : Source) (start stop : Nat) : Prop :=
  ∀ position, start ≤ position → position < stop → grammar.FailsAt source position

/-- The leftmost match from a position on. -/
structure Leftmost (grammar : Grammar) (source : Source) (start : Nat) (found : Match) : Prop where
  ahead : start ≤ found.span.start
  forward : found.span.start ≤ found.span.stop
  inside : found.span.start ≤ source.size
  barren : grammar.Barren source start found.span.start
  matched : grammar.MatchesAt source found.span.start found

end Grammar

namespace Proofs

/-- Asked again and again, `next` answers with these items one after the other, and then with none. -/
inductive Exhausts {σ α : Type} (next : σ → Except Halt (Option α × σ)) : σ → List α → σ → Prop where
  | ended {state last} (answer : next state = .ok (none, last)) : Exhausts next state [] last
  | found {state item rest items last} (answer : next state = .ok (some item, rest))
      (others : Exhausts next rest items last) : Exhausts next state (item :: items) last

/-- One step of a search: the leftmost match and where to resume, or none up to the end. -/
inductive Advances (scan : Scan) : Option Match → Scan → Prop where
  | ended {start journal} (beyond : scan.source.size < start)
      (barren : scan.grammar.Barren scan.source scan.nextStart (scan.source.size + 1)) :
      Advances scan none { scan with nextStart := start, journal := journal }
  | found {item journal} (first : scan.grammar.Leftmost scan.source scan.nextStart item) :
      Advances scan (some item) { scan with nextStart := Scan.resume item.span, journal := journal }

/-- All that a search finds from a position on. -/
inductive Sweep (grammar : Grammar) (source : Source) : Nat → List Match → Prop where
  | ended {start} (barren : grammar.Barren source start (source.size + 1)) : Sweep grammar source start []
  | found {start item items} (first : grammar.Leftmost source start item)
      (others : Sweep grammar source (Scan.resume item.span) items) :
      Sweep grammar source start (item :: items)

section Steps
variable {grammar : Grammar} {source : Source} {run : Run} {span : Span} {position start stop : Nat} {scan : Scan}

theorem barren_empty : grammar.Barren source start start :=
  fun _ ahead behind => absurd behind (Nat.not_lt_of_le ahead)

theorem barren_cons (failed : grammar.FailsAt source start) (barren : grammar.Barren source (start + 1) stop) :
    grammar.Barren source start stop := by
  intro position ahead behind
  rcases Nat.eq_or_lt_of_le ahead with rfl | later
  · exact failed
  · exact barren position later behind

theorem failsAt_of_consume (ran : grammar.consume (source.seek position) none = .ok run)
    (failed : run.result = none) : grammar.FailsAt source position := by
  refine ⟨run, ran, ?_⟩
  rw [Run.outcome, failed, Option.map_none]

theorem leftmost_of_consume (inside : position ≤ source.size)
    (ran : grammar.consume (source.seek position) none = .ok run) (matched : run.result = some span) :
    grammar.Leftmost source position (Match.ofSpan source none span) := by
  obtain ⟨height, result, after, rfl, evaluation⟩ := runWith_iff.mp ran
  obtain rfl : result = some span := matched
  obtain ⟨starts, forward, _, _⟩ :=
    (evaluation.rollback (sound_initial _ (source.seek position).position_le none)).matched span rfl
  have here : (source.seek position).position = position := Nat.min_eq_left inside
  obtain rfl : span.start = position := starts.trans here
  exact ⟨Nat.le_refl _, here ▸ forward, inside, barren_empty, _, ran, rfl⟩

theorem next_beyond (beyond : scan.source.size < scan.nextStart) : scan.next = .ok (none, scan) := by
  rw [Scan.next, if_neg (Nat.not_le_of_lt beyond)]

/-- An empty match is passed, so the search resumes behind the start of every match. -/
theorem start_lt_resume (forward : span.start ≤ span.stop) : span.start < Scan.resume span := by
  unfold Scan.resume Span.isEmpty
  split
  next => exact Nat.lt_succ_of_le forward
  next wide => exact Nat.lt_of_le_of_ne forward (mt beq_iff_eq.mpr wide)

theorem stop_le_resume (span : Span) : span.stop ≤ Scan.resume span := by
  unfold Scan.resume
  split
  · exact Nat.le_succ _
  · exact Nat.le_refl _

theorem lt_stop_of_lt_resume (behind : span.start < position) (before : position < Scan.resume span) :
    position < span.stop := by
  unfold Scan.resume Span.isEmpty at before
  split at before
  next empty =>
    have same : span.start = span.stop := beq_iff_eq.mp empty
    exact absurd (Nat.le_of_lt_succ before) (Nat.not_le_of_lt (same ▸ behind))
  next => exact before

theorem Advances.skip {journal : Array Event} {result : Option Match} {rest : Scan}
    (failed : scan.grammar.FailsAt scan.source scan.nextStart)
    (advances : Advances { scan with nextStart := scan.nextStart + 1, journal := journal } result rest) :
    Advances scan result rest := by
  cases advances with
  | ended beyond barren => exact .ended beyond (barren_cons failed barren)
  | found first =>
    exact .found ⟨Nat.le_of_succ_le first.ahead, first.forward, first.inside, barren_cons failed first.barren,
      first.matched⟩

theorem next_advances (scan : Scan) (returns : ∀ position, position ≤ scan.source.size →
    ∃ run, scan.grammar.consume (scan.source.seek position) none = .ok run) :
    ∃ result rest, scan.next = .ok (result, rest) ∧ Advances scan result rest := by
  fun_induction Scan.next scan with
  | case1 scan inside halt ran =>
    obtain ⟨run, answer⟩ := returns scan.nextStart inside
    cases ran.symm.trans answer
  | case2 scan inside run ran journal span matched =>
    exact ⟨_, _, rfl, .found (leftmost_of_consume inside ran matched)⟩
  | case3 scan inside run ran journal failed ih =>
    obtain ⟨result, rest, answer, advances⟩ := ih returns
    exact ⟨result, rest, answer, advances.skip (failsAt_of_consume ran failed)⟩
  | case4 scan outside =>
    have beyond := Nat.lt_of_not_le outside
    have barren : scan.grammar.Barren scan.source scan.nextStart (scan.source.size + 1) :=
      fun position ahead behind =>
        absurd (Nat.le_of_lt_succ behind) (Nat.not_le_of_lt (Nat.lt_of_lt_of_le beyond ahead))
    exact ⟨_, _, rfl, .ended beyond barren⟩

end Steps

section Sweeps
variable {grammar : Grammar} {source : Source} {start : Nat} {found : List Match}

theorem exhausts_scan (scan : Scan) (returns : ∀ position, position ≤ scan.source.size →
    ∃ run, scan.grammar.consume (scan.source.seek position) none = .ok run) :
    ∃ found last, Exhausts Scan.next scan found last ∧ last.next = .ok (none, last) ∧
      Sweep scan.grammar scan.source scan.nextStart found := by
  generalize leftEq : scan.source.size + 1 - scan.nextStart = left
  induction left using Nat.strongRecOn generalizing scan with
  | ind left ih =>
    obtain ⟨result, rest, answer, advances⟩ := next_advances scan returns
    cases advances with
    | ended beyond barren => exact ⟨[], _, .ended answer, next_beyond beyond, .ended barren⟩
    | @found item journal first =>
      have resumed := start_lt_resume first.forward
      have less : scan.source.size + 1 - Scan.resume item.span < left := by
        have ahead := first.ahead
        have inside := first.inside
        omega
      obtain ⟨found, last, others, stays, sweep⟩ :=
        ih _ less { scan with nextStart := Scan.resume item.span, journal := journal } returns rfl
      exact ⟨_, last, .found answer others, stays, .found first sweep⟩

theorem Sweep.length_le (sweep : Sweep grammar source start found) : found.length ≤ source.size + 1 - start := by
  induction sweep with
  | ended _ => exact Nat.zero_le _
  | found first _ ih =>
    have resumed := start_lt_resume first.forward
    have ahead := first.ahead
    have inside := first.inside
    rw [List.length_cons]
    omega

theorem Sweep.leftmost (sweep : Sweep grammar source start found) :
    ∀ item ∈ found, start ≤ item.span.start ∧ grammar.MatchesAt source item.span.start item := by
  induction sweep with
  | ended _ => exact nofun
  | found first _ ih =>
    refine List.forall_mem_cons.mpr ⟨⟨first.ahead, first.matched⟩, ?_⟩
    intro item member
    obtain ⟨ahead, matched⟩ := ih item member
    have resumed := start_lt_resume first.forward
    exact ⟨Nat.le_trans first.ahead (Nat.le_of_lt (Nat.lt_of_lt_of_le resumed ahead)), matched⟩

theorem Sweep.apart (sweep : Sweep grammar source start found) : found.Pairwise fun earlier later =>
    earlier.span.start < later.span.start ∧ earlier.span.stop ≤ later.span.start := by
  induction sweep with
  | ended _ => exact .nil
  | found first others ih =>
    refine .cons ?_ ih
    intro later member
    have ahead := (others.leftmost later member).1
    exact ⟨Nat.lt_of_lt_of_le (start_lt_resume first.forward) ahead, Nat.le_trans (stop_le_resume _) ahead⟩

theorem Sweep.covers (sweep : Sweep grammar source start found) {position : Nat} (ahead : start ≤ position)
    (inside : position ≤ source.size) : (∃ item ∈ found, item.span.start = position) ∨
      (∃ item ∈ found, item.span.start < position ∧ position < item.span.stop) ∨
        grammar.FailsAt source position := by
  induction sweep with
  | ended barren => exact .inr (.inr (barren position ahead (Nat.lt_succ_of_le inside)))
  | @found start item items first _ ih =>
    rcases Nat.lt_trichotomy position item.span.start with before | here | behind
    · exact .inr (.inr (first.barren position ahead before))
    · exact .inl ⟨item, List.mem_cons_self, here.symm⟩
    · by_cases resumed : Scan.resume item.span ≤ position
      · rcases ih resumed with ⟨other, member, starts⟩ | ⟨other, member, within⟩ | failed
        · exact .inl ⟨other, List.mem_cons_of_mem _ member, starts⟩
        · exact .inr (.inl ⟨other, List.mem_cons_of_mem _ member, within⟩)
        · exact .inr (.inr failed)
      · have within := lt_stop_of_lt_resume behind (Nat.lt_of_not_le resumed)
        exact .inr (.inl ⟨item, List.mem_cons_self, behind, within⟩)

theorem Exhausts.take {scan last : Scan} (exhausts : Exhausts Scan.next scan found last) {count : Nat}
    (enough : found.length ≤ count) : (scan.take count).map (·.1) = .ok found := by
  induction exhausts generalizing count with
  | ended answer =>
    cases count with
    | zero => rfl
    | succ count => simp only [Scan.take, answer, Except.map]
  | found answer others ih =>
    obtain ⟨count, rfl⟩ := Nat.exists_eq_add_of_le' (Nat.le_trans (Nat.succ_pos _) enough)
    have others := ih (Nat.le_of_succ_le_succ enough)
    rw [Scan.take, answer]
    dsimp only
    split
    next halt failed =>
      rw [failed] at others
      cases others
    next items last taken =>
      rw [taken] at others
      cases others
      rfl

/-- If every run on a text returns, the search of it ends, and ends for good. It finds no more matches than the
text has positions, from left to right and without overlap, each of them the match of the root where it begins.
At every position one of them begins or goes on, or the root fails. -/
theorem findAll_is_leftmost_scan {grammar : Grammar} {text : String}
    (returns : ∀ position, position ≤ text.length →
      ∃ run, grammar.consume ((Source.ofString text).seek position) none = .ok run) :
    ∃ found last, Exhausts Scan.next (grammar.scan text) found last ∧ last.next = .ok (none, last) ∧
      found.length ≤ text.length + 1 ∧
      (∀ item ∈ found, grammar.MatchesAt (.ofString text) item.span.start item) ∧
      (found.Pairwise fun earlier later =>
        earlier.span.start < later.span.start ∧ earlier.span.stop ≤ later.span.start) ∧
      (∀ position, position ≤ text.length → (∃ item ∈ found, item.span.start = position) ∨
        (∃ item ∈ found, item.span.start < position ∧ position < item.span.stop) ∨
          grammar.FailsAt (.ofString text) position) ∧
      grammar.findAll text = .ok found ∧ grammar.find text = .ok found.head? := by
  have size : (Source.ofString text).size = text.length := (Source.ofString text).size_eq
  rw [← size] at returns ⊢
  obtain ⟨found, last, exhausts, stays, sweep⟩ := exhausts_scan (grammar.scan text) returns
  have short : found.length ≤ (Source.ofString text).size + 1 := sweep.length_le
  refine ⟨found, last, exhausts, stays, short, ?_, sweep.apart, ?_, exhausts.take short, ?_⟩
  · exact fun item member => (sweep.leftmost item member).2
  · exact fun position inside => sweep.covers (Nat.zero_le _) inside
  · unfold Grammar.find
    cases exhausts with
    | ended answer => rw [answer]; rfl
    | found answer _ => rw [answer]; rfl

end Sweeps

theorem consume_returns {grammar : Grammar} (limited : 0 < grammar.limits.maxDepth ∨ 0 < grammar.limits.maxSteps)
    (source : Source) (trace : Option Trace) : ∃ run, grammar.consume source trace = .ok run := by
  have sound := sound_initial ⟨grammar, source.scalars, grammar.limits⟩ source.position_le trace
  obtain ⟨result, after, answer⟩ := evaluate_returns limited grammar.root_lt sound
  exact ⟨_, runWith_of_evaluate answer⟩

/-- A limit of three attempts ends the runs at the first two letters, so the search passes them. It finds the
third letter, and nothing at the start, behind that letter and at the end. -/
theorem search_passes_aborted_runs :
    let operations : List Draft.Operation := [.literal "a" .sensitive, .span 0]
    ∃ grammar found last, ((Draft.perform {} operations).seal 1).map (·.withLimits ⟨0, 3⟩) = .ok grammar ∧
      (∀ position, position ≤ "baaab".length →
        ∃ run, grammar.consume ((Source.ofString "baaab").seek position) none = .ok run) ∧
      Exhausts Scan.next (grammar.scan "baaab") found last ∧ last.next = .ok (none, last) ∧
      found.map Match.span = [⟨0, 0⟩, ⟨3, 4⟩, ⟨4, 4⟩, ⟨5, 5⟩] := by
  intro operations
  have answers : (((Draft.perform {} operations).seal 1).map (·.withLimits ⟨0, 3⟩)).toOption.any (fun grammar =>
      grammar.limits == ⟨0, 3⟩ && (grammar.findAll "baaab").toOption.any fun found =>
        found.map Match.span == [⟨0, 0⟩, ⟨3, 4⟩, ⟨4, 4⟩, ⟨5, 5⟩]) = true := by decide +kernel
  obtain ⟨grammar, built, answers⟩ := ok_of_any answers
  obtain ⟨limits, listed⟩ := Bool.and_eq_true_iff.mp answers
  have limited : 0 < grammar.limits.maxSteps := eq_of_beq limits ▸ Nat.zero_lt_succ 2
  have returns := fun position (_ : position ≤ "baaab".length) =>
    consume_returns (.inr limited) ((Source.ofString "baaab").seek position) none
  obtain ⟨found, last, exhausts, stays, _, _, _, _, all, _⟩ := findAll_is_leftmost_scan returns
  rw [all] at listed
  exact ⟨grammar, found, last, built, returns, exhausts, stays, eq_of_beq listed⟩

end Proofs
end Peg
