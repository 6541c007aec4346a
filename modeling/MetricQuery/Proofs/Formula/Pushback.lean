/-
  MetricQuery.Proofs.Formula.Pushback
  ───────────────────────────────────
  **ONE TOKEN OF PUSHBACK.**

  A cursor keeps a place among the characters, the token that it yielded last and
  a flag.  Seen from outside it is no more than a bookmark in the stream of a
  formula: a number of tokens that lie behind it, and whether the last of them is
  due once more.  The stream goes on for ever, with the end token or with the
  failure in which it ends.

    • `Scanned.element`      — the stream as a sequence without an end,
    • `Scanned.reader`       — a bookmark in a stream, with one token of pushback,
    • `Simulation.run`       — readers that agree call by call agree on every sequence of calls,
    • `scanNext_cases`       — what a scan yields and where it leaves the cursor,
    • `Cursor.StandsAt`      — the bookmark that a cursor stands for,
    • `Cursor.simulation`    — every call keeps the two together,
    • `lastToken_run`        — the token that is kept is the last one among the answers,
    • `cursor_is_bookmark`   — all answers of a cursor.
-/
import MetricQuery.Formula.Cursor
import MetricQuery.Proofs.Formula.Spelling

namespace MetricQuery

open Text

/-! ## §1. Readers of tokens. -/

/-- What a reader of tokens is asked to do. -/
inductive Call where
  | advance
  | stepBack
  deriving DecidableEq, Repr

/-- A reader of tokens: what it answers when it is to advance, and its states. -/
structure TokenReader (σ : Type) where
  advance : σ → Except Fault Token × σ
  stepBack : σ → σ

namespace TokenReader

variable {σ τ : Type}

/-- One call: an advance is answered, a step back is not. -/
def call (r : TokenReader σ) (s : σ) : Call → List (Except Fault Token) × σ
  | .advance => ([(r.advance s).1], (r.advance s).2)
  | .stepBack => ([], r.stepBack s)

/-- Calls one after another: all answers, and the state in the end. -/
def run (r : TokenReader σ) : σ → List Call → List (Except Fault Token) × σ
  | s, [] => ([], s)
  | s, c :: calls =>
      let later := r.run (r.call s c).2 calls
      ((r.call s c).1 ++ later.1, later.2)

/-- Related states answer alike, and their next states are related. -/
structure Simulation (r : TokenReader σ) (r' : TokenReader τ) (R : σ → τ → Prop) : Prop where
  advance : ∀ s t, R s t →
    (r.advance s).1 = (r'.advance t).1 ∧ R (r.advance s).2 (r'.advance t).2
  stepBack : ∀ s t, R s t → R (r.stepBack s) (r'.stepBack t)

variable {r : TokenReader σ} {r' : TokenReader τ} {R : σ → τ → Prop}

theorem Simulation.call (h : Simulation r r' R) {s : σ} {t : τ} (hst : R s t) (c : Call) :
    (r.call s c).1 = (r'.call t c).1 ∧ R (r.call s c).2 (r'.call t c).2 := by
  cases c with
  | advance =>
      obtain ⟨hanswer, hnext⟩ := h.advance s t hst
      exact ⟨congrArg (fun a => [a]) hanswer, hnext⟩
  | stepBack => exact ⟨rfl, h.stepBack s t hst⟩

/-- **Readers that agree call by call agree on every sequence of calls.** -/
theorem Simulation.run (h : Simulation r r' R) (calls : List Call) :
    ∀ {s : σ} {t : τ}, R s t →
      (r.run s calls).1 = (r'.run t calls).1 ∧ R (r.run s calls).2 (r'.run t calls).2 := by
  induction calls with
  | nil =>
      intro s t hst
      exact ⟨rfl, hst⟩
  | cons c calls ih =>
      intro s t hst
      obtain ⟨hanswer, hnext⟩ := h.call hst c
      obtain ⟨hanswers, hlast⟩ := ih hnext
      refine ⟨?_, hlast⟩
      show (r.call s c).1 ++ (r.run _ calls).1 = (r'.call t c).1 ++ (r'.run _ calls).1
      rw [hanswer, hanswers]

end TokenReader

/-- The token that was yielded last among these answers. -/
def lastToken (answers : List (Except Fault Token)) : Option Token :=
  (answers.filterMap Except.toOption).getLast?

theorem lastToken_append (before after : List (Except Fault Token)) :
    lastToken (before ++ after) = (lastToken after).or (lastToken before) := by
  unfold lastToken
  rw [List.filterMap_append, List.getLast?_append]

/-! ## §2. Streams without an end. -/

/-- What is found where there are no more tokens: the end token, or the failure. -/
def Stop.answer : Stop → Except Fault Token
  | .finish position => .ok (Token.finish position)
  | .unrecognized position c => .error (MetricQuery.unrecognized position c)

namespace Scanned

/-- The element of the stream with this number: its tokens in order, and after them for ever what is
found at its end. -/
def element (s : Scanned) (n : Nat) : Except Fault Token :=
  match s.tokens[n]? with
  | some t => .ok t
  | none => s.stop.answer

/-- The token before the element with this number; before the first one there is none. -/
def before (s : Scanned) : Nat → Option Token
  | 0 => none
  | n + 1 => (s.element n).toOption

end Scanned

/-- A place in a stream: how many of its tokens lie behind, and whether the last of these is due. -/
structure Bookmark where
  read : Nat
  due : Bool
  deriving DecidableEq, Repr

/-- The beginning of a stream. -/
def Bookmark.start : Bookmark :=
  ⟨0, false⟩

/-- The bookmark moves: it yields the next element and passes it if that is a token.  It does not
pass a failure. -/
def Scanned.pass (s : Scanned) (b : Bookmark) : Except Fault Token × Bookmark :=
  match s.element b.read with
  | .ok t => (.ok t, ⟨b.read + 1, false⟩)
  | .error fault => (.error fault, b)

/-- **A bookmark in a stream, with one token of pushback.**  After a step back the token before the
bookmark is due, if there is one, and the next advance yields it and does not move.  Any other
advance moves. -/
def Scanned.reader (s : Scanned) : TokenReader Bookmark where
  advance b :=
    match b.due, s.before b.read with
    | true, some t => (.ok t, { b with due := false })
    | _, _ => s.pass b
  stepBack b := { b with due := (s.before b.read).isSome }

theorem Scanned.advance_of_due {s : Scanned} {b : Bookmark} {t : Token} (hdue : b.due = true)
    (ht : s.before b.read = some t) : s.reader.advance b = (.ok t, { b with due := false }) := by
  simp only [Scanned.reader, hdue, ht]

theorem Scanned.advance_of_not_due {s : Scanned} {b : Bookmark}
    (h : b.due = false ∨ s.before b.read = none) : s.reader.advance b = s.pass b := by
  unfold Scanned.reader
  rcases h with h | h
  · simp only [h]
  · simp only [h]
    cases b.due <;> rfl

/-! ## §3. One scan. -/

/-- A cursor as a reader of tokens. -/
def Cursor.reader : TokenReader Cursor :=
  ⟨Cursor.advance, Cursor.stepBack⟩

namespace Cursor

theorem advance_of_due {c : Cursor} {t : Token} (hdue : c.reverted = true) (ht : c.last = some t) :
    c.advance = (.ok t, { c with reverted := false }) := by
  simp only [advance, hdue, ht]

theorem advance_of_not_due {c : Cursor} (h : c.reverted = false ∨ c.last = none) :
    c.advance = c.scanNext := by
  unfold advance
  rcases h with h | h
  · simp only [h]
  · simp only [h]
    cases c.reverted <;> rfl

/-- A token is due and there is one, or the cursor scans. -/
theorem due_or_scans (c : Cursor) :
    (∃ t, c.reverted = true ∧ c.last = some t) ∨ c.reverted = false ∨ c.last = none := by
  cases hlast : c.last with
  | none => exact .inr (.inr rfl)
  | some t =>
      cases hreverted : c.reverted with
      | false => exact .inr (.inl rfl)
      | true => exact .inl ⟨t, rfl, rfl⟩

/-- The stream of what is left. -/
def stream (c : Cursor) : Scanned :=
  Scanned.ofChars c.position c.rest

/-- **What a scan yields and where it leaves the cursor.**  It yields the first element of the
stream of what is left.  If that is a token, the cursor keeps it, and the elements after it are
left; if not, the cursor stands at the character that begins no token, the stream is left as it was,
and so is everything else. -/
theorem scanNext_cases (c : Cursor) :
    (∃ t, c.stream.element 0 = .ok t ∧ c.scanNext.1 = .ok t ∧ c.scanNext.2.last = some t ∧
      c.scanNext.2.reverted = false ∧
      ∀ n, c.scanNext.2.stream.element n = c.stream.element (n + 1)) ∨
    ∃ p ch after, c.stream.element 0 = .error (unrecognized p ch) ∧
      c.scanNext = (.error (unrecognized p ch), { c with position := p, rest := ch :: after }) ∧
      Scanned.ofChars p (ch :: after) = c.stream := by
  unfold stream scanNext
  cases hscan : scan c.position c.rest with
  | token t rest =>
      rw [Scanned.ofChars_of_token hscan]
      exact .inl ⟨t, rfl, rfl, rfl, rfl, fun n => rfl⟩
  | stop s rest =>
      rw [Scanned.ofChars_of_stop hscan]
      rcases scan_eq_stop hscan with ⟨rfl, rfl⟩ | ⟨blanks, ch, after, -, rfl, rfl, hblank, hl⟩
      · -- Behind the end there is the end again.
        refine .inl ⟨_, rfl, rfl, rfl, rfl, ?_⟩
        intro n
        show (Scanned.ofChars _ []).element n = _
        rw [Scanned.ofChars_of_stop (show scan _ [] = .stop (.finish _) [] from rfl)]
        rfl
      · exact .inr ⟨_, ch, after, rfl, rfl, Scanned.ofChars_of_stop (scan_of_stray hblank hl)⟩

/-! ## §4. The bookmark that a cursor stands for. -/

/-- The cursor stands at the bookmark: what is left are the elements from there on, the token that
it keeps is the one before, and the same is due. -/
structure StandsAt (s : Scanned) (c : Cursor) (b : Bookmark) : Prop where
  left : ∀ n, c.stream.element n = s.element (b.read + n)
  last : c.last = s.before b.read
  due : c.reverted = b.due

theorem standsAt_start (formula : String) :
    StandsAt (Scanned.ofText formula) (ofText formula) Bookmark.start where
  left n := by
    show _ = (Scanned.ofText formula).element (0 + n)
    rw [Nat.zero_add]
    rfl
  last := rfl
  due := rfl

section StandsAt

variable {s : Scanned} {c : Cursor} {b : Bookmark}

/-- **A scan of the cursor is a move of the bookmark.** -/
theorem StandsAt.scanNext (h : StandsAt s c b) :
    c.scanNext.1 = (s.pass b).1 ∧ StandsAt s c.scanNext.2 (s.pass b).2 := by
  have hfirst : c.stream.element 0 = s.element b.read := h.left 0
  unfold Scanned.pass
  rw [← hfirst]
  rcases c.scanNext_cases with ⟨t, helement, hanswer, hlast, hreverted, hleft⟩ |
    ⟨p, ch, after, helement, hscan, hstream⟩
  · rw [helement]
    refine ⟨hanswer, ?_, ?_, hreverted⟩
    · intro n
      rw [hleft, h.left]
      show s.element (b.read + (n + 1)) = s.element (b.read + 1 + n)
      rw [Nat.add_right_comm, Nat.add_assoc]
    · show _ = (s.element b.read).toOption
      rw [hlast, ← hfirst, helement]
      rfl
  · rw [helement, hscan]
    refine ⟨rfl, ?_, h.last, h.due⟩
    intro n
    show (Scanned.ofChars p (ch :: after)).element n = _
    rw [hstream, h.left]

/-- **An advance of the cursor is an advance of the bookmark.** -/
theorem StandsAt.advance (h : StandsAt s c b) :
    c.advance.1 = (s.reader.advance b).1 ∧ StandsAt s c.advance.2 (s.reader.advance b).2 := by
  have hlast := h.last
  have hdue := h.due
  rcases c.due_or_scans with ⟨t, hreverted, ht⟩ | hscans
  · -- The token that the cursor keeps is due, and neither of the two moves.
    rw [advance_of_due hreverted ht, Scanned.advance_of_due (hdue ▸ hreverted) (hlast ▸ ht)]
    exact ⟨rfl, h.left, hlast, rfl⟩
  · rw [advance_of_not_due hscans, Scanned.advance_of_not_due (hdue ▸ hlast ▸ hscans)]
    exact h.scanNext

/-- **A step back of the cursor is a step back of the bookmark.** -/
theorem StandsAt.stepBack (h : StandsAt s c b) : StandsAt s c.stepBack (s.reader.stepBack b) where
  left := h.left
  last := h.last
  due := congrArg Option.isSome h.last

end StandsAt

/-- **Every call keeps a cursor and its bookmark together.** -/
theorem simulation (s : Scanned) : TokenReader.Simulation reader s.reader (StandsAt s) where
  advance _ _ h := h.advance
  stepBack _ _ h := h.stepBack

/-! ## §5. All answers. -/

/-- The token that a cursor keeps is the one that it has just yielded, if it has. -/
theorem last_advance (c : Cursor) : c.advance.2.last = (lastToken [c.advance.1]).or c.last := by
  rcases c.due_or_scans with ⟨t, hreverted, ht⟩ | hscans
  · rw [advance_of_due hreverted ht]
    exact ht
  · rw [advance_of_not_due hscans]
    rcases c.scanNext_cases with ⟨t, -, hanswer, hlast, -⟩ | ⟨p, ch, after, -, hscan, -⟩
    · rw [hanswer, hlast]
      rfl
    · rw [hscan]
      rfl

/-- **The token that a cursor keeps is the last one among its answers.** -/
theorem lastToken_run (calls : List Call) (c : Cursor) :
    (reader.run c calls).2.last = (lastToken (reader.run c calls).1).or c.last := by
  induction calls generalizing c with
  | nil => rfl
  | cons call calls ih =>
      show (reader.run (reader.call c call).2 calls).2.last = (lastToken
        ((reader.call c call).1 ++ (reader.run (reader.call c call).2 calls).1)).or c.last
      rw [ih, lastToken_append, Option.or_assoc]
      congr 1
      cases call with
      | advance => exact c.last_advance
      | stepBack => rfl

/-- **A failure leaves the cursor where it is.**  The last token is kept, and the cursor stands at
the character that the failure names: only white space before it has been passed, so that the stream
of what is left is the same. -/
theorem advance_fails {c : Cursor} {fault : Fault} (h : c.advance.1 = .error fault) :
    c.advance.2.last = c.last ∧ c.advance.2.stream = c.stream ∧
      ∃ ch rest, c.advance.2.rest = ch :: rest ∧
        fault = unrecognized c.advance.2.position ch := by
  rcases c.due_or_scans with ⟨t, hreverted, ht⟩ | hscans
  · rw [advance_of_due hreverted ht] at h
    cases h
  · rw [advance_of_not_due hscans] at h ⊢
    rcases c.scanNext_cases with ⟨t, -, hanswer, -⟩ | ⟨p, ch, rest, -, hscan, hstream⟩
    · rw [hanswer] at h
      cases h
    · rw [hscan] at h ⊢
      cases h
      exact ⟨rfl, hstream, ch, rest, rfl, rfl⟩

/-- **A cursor is a bookmark in the stream of its formula,** whatever is asked of it and in whatever
order.  The answers are those of the bookmark, and the token that is due after a step back is the
last one among the answers.  An advance that fails changes neither the token that is kept nor the
stream of what is left, and the cursor then stands at the character that the failure names. -/
theorem cursor_is_bookmark (formula : String) (calls : List Call) :
    (reader.run (ofText formula) calls).1 =
        ((Scanned.ofText formula).reader.run Bookmark.start calls).1 ∧
      (Scanned.ofText formula).before
          ((Scanned.ofText formula).reader.run Bookmark.start calls).2.read =
        lastToken (reader.run (ofText formula) calls).1 ∧
      ∀ c fault, (reader.run (ofText formula) calls).2 = c → c.advance.1 = .error fault →
        c.advance.2.last = c.last ∧ c.advance.2.stream = c.stream ∧
          ∃ ch rest, c.advance.2.rest = ch :: rest ∧
            fault = unrecognized c.advance.2.position ch := by
  obtain ⟨hanswers, hstands⟩ :=
    (simulation (Scanned.ofText formula)).run calls (standsAt_start formula)
  refine ⟨hanswers, ?_, fun c fault _ hfails => advance_fails hfails⟩
  rw [← hstands.last, lastToken_run]
  -- At the beginning no token is kept.
  exact Option.or_none

/-- Calls by which a token is yielded twice, and a failure is met twice. -/
def strayCalls : List Call :=
  [.stepBack, .advance, .stepBack, .stepBack, .advance, .advance, .advance, .stepBack, .advance,
    .advance]

/-- A cursor before white space and a character that begins no token. -/
def beforeStray : Cursor :=
  (reader.run (ofText "12 +  $") [.advance, .advance]).2

/-- A step back before the first token and a second one in a row change nothing.  After the failure
the operator before it is still the token that is due, and then the same failure is met. -/
theorem cursor_is_bookmark_stray :
    (reader.run (ofText "12 +  $") strayCalls).1 =
        [.ok ⟨.number, "12", 0⟩, .ok ⟨.number, "12", 0⟩, .ok ⟨.operator, "+", 3⟩,
          .error (unrecognized 6 '$'), .ok ⟨.operator, "+", 3⟩, .error (unrecognized 6 '$')] ∧
      beforeStray.advance.1 = .error (unrecognized 6 '$') ∧
      beforeStray.advance.2.last = beforeStray.last ∧
      beforeStray.advance.2.stream = beforeStray.stream := by
  constructor
  · rw [(cursor_is_bookmark _ _).1]
    decide +kernel
  · have hfails : beforeStray.advance.1 = .error (unrecognized 6 '$') := by decide +kernel
    obtain ⟨hlast, hstream, -⟩ :=
      (cursor_is_bookmark "12 +  $" [.advance, .advance]).2.2 beforeStray _ rfl hfails
    exact ⟨hfails, hlast, hstream⟩

end Cursor
end MetricQuery
