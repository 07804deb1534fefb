import ExprLang.Proofs.Grammar.Stopping

set_option autoImplicit false

/-!
Reading ends, whatever the words of the language are. The grammar is written once more as a
recursion that has no measure and no proof with it and is cut off at some depth: when that is large
enough, it comes to the same outcome. An expression inside another one stands at a shorter end of
the text, and a repetition either moves or stops with a fault. What it does not always come to is a
tree or an error: a word that is cut inside a character stops the program.
-/

namespace ExprLang.Grammar

/-! The grammar as a general recursion. An outcome is missing where it would go deeper than it may. -/

namespace General

/-- The outcome of a reader, with nothing known of what is left. -/
inductive Outcome (α : Type)
  | ok (value : α) (rest : List Char)
  | fault (fault : Fault)
  | hard (fault : Fault)

def Outcome.map {α β : Type} (f : α → β) : Outcome α → Outcome β
  | ok v rest => ok (f v) rest
  | fault f => fault f
  | hard f => hard f

def members (target : Expr) (s : List Char) : Nat → Option (Outcome Expr)
  | 0 => none
  | n + 1 =>
    match memberName? s with
    | none => return .ok target s
    | some (p, name) =>
      if p.rest.length < s.length then members (.member target name) p.rest n
      else return .fault ⟨.emptyRound, s⟩

mutual

def expression (o : Options) (s : List Char) : Nat → Option (Outcome Expr)
  | 0 => none
  | n + 1 => do
    match ← term o s n with
    | .ok v r => operands o v r n
    | .fault f => return .fault f
    | .hard f => return .hard f

def operands (o : Options) (chain : Expr) (s : List Char) : Nat → Option (Outcome Expr)
  | 0 => none
  | n + 1 => do
    match operatorSpaced o s with
    | .fault _ => return .ok chain s
    | .hard f => return .hard f
    | .ok op =>
      match ← term o op.rest n with
      | .fault _ => return .ok chain s
      | .hard f => return .hard f
      | .ok v r =>
        if r.length < s.length then operands o (chain.append op.value v) r n
        else return .fault ⟨.emptyRound, s⟩

def term (o : Options) (s : List Char) : Nat → Option (Outcome Expr)
  | 0 => none
  | n + 1 => do
    match ← primary o (skipBlanks s) n with
    | .ok v r => if o.memberRead then members v (skipBlanks r) n else return .ok v (skipBlanks r)
    | .fault f => return .fault f
    | .hard f => return .hard f

def primary (o : Options) (s : List Char) : Nat → Option (Outcome Expr)
  | 0 => none
  | n + 1 => do
    match literal o s with
    | .ok t => return .ok t.value t.rest
    | .hard f => return .hard f
    | .fault _ =>
      match ← call o s n with
      | .ok v r => return .ok v r
      | .hard f => return .hard f
      | .fault _ =>
        match ident? o s with
        | some t => return .ok t.value t.rest
        | none => group o s n

def call (o : Options) (s : List Char) : Nat → Option (Outcome Expr)
  | 0 => none
  | n + 1 => do
    match name? s with
    | none => return .fault ⟨.character, s⟩
    | some name =>
      match pastSpaced? '(' name.rest with
      | none => return .fault ⟨.character, s⟩
      | some opening =>
        match ← arguments o opening.rest n with
        | .fault f => return .fault f
        | .hard f => return .hard f
        | .ok vs r =>
          match pastSpaced? ')' r with
          | none => return .fault ⟨.character, s⟩
          | some closing =>
            match callNode? o name.value vs with
            | none => return .fault ⟨.character, s⟩
            | some e => return .ok e closing.rest

def arguments (o : Options) (s : List Char) : Nat → Option (Outcome (List Expr))
  | 0 => none
  | n + 1 => do
    match ← expression o s n with
    | .fault _ => return .ok [] s
    | .hard f => return .hard f
    | .ok v r => return (← moreArguments o r n).map (v :: ·)

def moreArguments (o : Options) (s : List Char) : Nat → Option (Outcome (List Expr))
  | 0 => none
  | n + 1 => do
    match pastSpaced? ',' s with
    | none => return .ok [] s
    | some comma =>
      match ← expression o comma.rest n with
      | .fault _ => return .ok [] s
      | .hard f => return .hard f
      | .ok v r =>
        if r.length < s.length then return (← moreArguments o r n).map (v :: ·)
        else return .fault ⟨.emptyRound, s⟩

def group (o : Options) (s : List Char) : Nat → Option (Outcome Expr)
  | 0 => none
  | n + 1 => do
    match pastSpaced? '(' s with
    | none => return .fault ⟨.character, skipBlanks s⟩
    | some opening =>
      match ← expression o opening.rest n with
      | .fault f => return .fault f
      | .hard f => return .hard f
      | .ok v r =>
        match pastSpaced? ')' r with
        | none => return .fault ⟨.character, skipBlanks r⟩
        | some closing => return .ok (.group v) closing.rest

end

def parse (o : Options) (text : String) (n : Nat) : Option (Except Error Expr) := do
  match ← expression o text.toList n with
  | .ok e rest =>
    return if rest = [] then .ok e else .error (.malformed text (.remainder rest))
  | .fault f => return .error (.malformed text (.unreadable f))
  | .hard f => return .error (.ofHard text f)

end General

/-! It ends, with the outcome of the recursion that has a measure -/

open General (Outcome)

def Reading.outcome {s : List Char} {α : Type} : Reading s α → Outcome α
  | ok t => .ok t.value t.rest
  | fault f => .fault f
  | hard f => .hard f

@[simp] theorem Reading.outcome_ok {s : List Char} {α : Type} (t : Taken s α) :
    (ok t).outcome = .ok t.value t.rest := rfl

@[simp] theorem Reading.outcome_fault {s : List Char} {α : Type} (f : Fault) :
    (fault f : Reading s α).outcome = .fault f := rfl

@[simp] theorem Reading.outcome_hard {s : List Char} {α : Type} (f : Fault) :
    (hard f : Reading s α).outcome = .hard f := rfl

@[simp] theorem Reading.outcome_within {r s : List Char} {α : Type} (h : r <:+ s)
    (x : Reading r α) : (x.within h).outcome = x.outcome := by
  cases x <;> rfl

@[simp] theorem Reading.outcome_map {s : List Char} {α β : Type} (f : α → β) (x : Reading s α) :
    (x.map f).outcome = x.outcome.map f := by
  cases x <;> rfl

theorem Reading.outcome_eq_ok_iff {s rest : List Char} {α : Type} {x : Reading s α} {v : α} :
    x.outcome = .ok v rest ↔ x.Takes v rest := by
  cases x with
  | ok t => simp [takes_ok_iff]
  | fault f => simp [not_takes_fault]
  | hard f => simp [not_takes_hard]

/-- Members are read after a point, so the repetition always moves. -/
theorem general_members (target : Expr) (s : List Char) {n : Nat} (deep : s.length < n) :
    General.members target s n
      = some (.ok (Grammar.members target s).value (Grammar.members target s).rest) := by
  induction target, s using Grammar.members.induct generalizing n with
  | case1 target s none =>
    obtain ⟨n, rfl⟩ := Nat.exists_eq_add_one_of_ne_zero (Nat.ne_zero_of_lt deep)
    rw [General.members, none, (members_of_none target none).1, (members_of_none target none).2]
    rfl
  | case2 target s p name found ih =>
    obtain ⟨n, rfl⟩ := Nat.exists_eq_add_one_of_ne_zero (Nat.ne_zero_of_lt deep)
    have shorter := p.shorter
    rw [General.members, found, (members_of_some target found).1, (members_of_some target found).2]
    simp only [if_pos shorter]
    exact ih (by omega)

theorem general_followed (o : Options) (v : Expr) (r : List Char) {n : Nat} (deep : r.length < n) :
    (if o.memberRead then General.members v (skipBlanks r) n else some (.ok v (skipBlanks r)))
      = some (.ok (followed o v r).1 (followed o v r).2) := by
  have shorter := Nat.lt_of_le_of_lt (length_skipBlanks_le r) deep
  rw [followed]
  by_cases read : o.memberRead = true
  · simp only [read, if_true, general_members v (skipBlanks r) shorter]
  · simp only [read, Bool.false_eq_true, if_false]

variable {o : Options}

-- A call goes one deeper, and what it asks for is less than what its caller asks for by the measure
-- of the recursion that ends.
mutual

theorem general_expression (s : List Char) {n : Nat} (deep : 10 * s.length + 6 < n) :
    General.expression o s n = some (expression o s).outcome := by
  cases n with
  | zero => exact absurd deep (Nat.not_lt_zero _)
  | succ n =>
    rw [General.expression, general_term s (by omega), expression]
    cases first : term o s with
    | ok t =>
      have := t.length_le
      simpa using general_operands t.rest t.value (by omega)
    | fault f => rfl
    | hard f => rfl
termination_by n

theorem general_operands (s : List Char) (chain : Expr) {n : Nat} (deep : 10 * s.length + 5 < n) :
    General.operands o chain s n = some (operands o chain s).outcome := by
  cases n with
  | zero => exact absurd deep (Nat.not_lt_zero _)
  | succ n =>
    rw [General.operands, operands]
    cases found : operatorSpaced o s with
    | fault f => rfl
    | hard f => rfl
    | ok op =>
      have := op.length_le
      simp only [general_term op.rest (n := n) (by omega)]
      cases operand : term o op.rest with
      | ok t =>
        by_cases shorter : t.rest.length < s.length
        · simpa [shorter] using
            general_operands t.rest (chain.append op.value t.value) (n := n) (by omega)
        · simp [shorter]
      | fault f => rfl
      | hard f => rfl
termination_by n

theorem general_term (s : List Char) {n : Nat} (deep : 10 * s.length + 4 < n) :
    General.term o s n = some (term o s).outcome := by
  have := length_skipBlanks_le s
  cases n with
  | zero => exact absurd deep (Nat.not_lt_zero _)
  | succ n =>
    rw [General.term, general_primary (skipBlanks s) (by omega), term]
    cases read : primary o (skipBlanks s) with
    | ok t =>
      have := t.length_le
      have finished := finish_eq (o := o) (t.within (skipBlanks_suffix s))
      have followed := general_followed o t.value t.rest (n := n) (by omega)
      simp only [Taken.within] at finished
      rw [← finished] at followed
      exact followed
    | fault f => rfl
    | hard f => rfl
termination_by n

theorem general_primary (s : List Char) {n : Nat} (deep : 10 * s.length + 3 < n) :
    General.primary o s n = some (primary o s).outcome := by
  cases n with
  | zero => exact absurd deep (Nat.not_lt_zero _)
  | succ n =>
    rw [General.primary, general_call s (by omega), primary]
    cases literal o s with
    | ok t => rfl
    | hard f => rfl
    | fault f =>
      cases call o s with
      | ok t => rfl
      | hard f => rfl
      | fault f =>
        cases ident? o s with
        | some t => rfl
        | none => exact general_group s (by omega)
termination_by n

theorem general_call (s : List Char) {n : Nat} (deep : 10 * s.length + 2 < n) :
    General.call o s n = some (call o s).outcome := by
  cases n with
  | zero => exact absurd deep (Nat.not_lt_zero _)
  | succ n =>
    rw [General.call, call]
    cases name? s with
    | none => rfl
    | some name =>
      cases opened : pastSpaced? '(' name.rest with
      | none => simp only [opened]; rfl
      | some opening =>
        have := name.length_le
        have := opening.shorter
        simp only [opened, general_arguments opening.rest (n := n) (by omega)]
        cases arguments o opening.rest with
        | fault f => rfl
        | hard f => rfl
        | ok t =>
          cases closed : pastSpaced? ')' t.rest with
          | none => simp [closed]
          | some closing => cases node : callNode? o name.value t.value <;> simp [closed, node]
termination_by n

theorem general_arguments (s : List Char) {n : Nat} (deep : 10 * s.length + 8 < n) :
    General.arguments o s n = some (arguments o s).outcome := by
  cases n with
  | zero => exact absurd deep (Nat.not_lt_zero _)
  | succ n =>
    rw [General.arguments, general_expression s (by omega), arguments]
    cases first : expression o s with
    | fault f => rfl
    | hard f => rfl
    | ok t =>
      have := t.length_le
      simp [general_moreArguments t.rest (n := n) (by omega)]
termination_by n

theorem general_moreArguments (s : List Char) {n : Nat} (deep : 10 * s.length + 7 < n) :
    General.moreArguments o s n = some (moreArguments o s).outcome := by
  cases n with
  | zero => exact absurd deep (Nat.not_lt_zero _)
  | succ n =>
    rw [General.moreArguments, moreArguments]
    cases passed : pastSpaced? ',' s with
    | none => rfl
    | some comma =>
      have := comma.shorter
      simp only [general_expression comma.rest (n := n) (by omega)]
      cases next : expression o comma.rest with
      | fault f => rfl
      | hard f => rfl
      | ok t =>
        have shorter := Nat.lt_of_le_of_lt t.length_le comma.shorter
        simp [shorter, general_moreArguments t.rest (n := n) (by omega)]
termination_by n

theorem general_group (s : List Char) {n : Nat} (deep : 10 * s.length + 2 < n) :
    General.group o s n = some (group o s).outcome := by
  cases n with
  | zero => exact absurd deep (Nat.not_lt_zero _)
  | succ n =>
    rw [General.group, group]
    cases pastSpaced? '(' s with
    | none => rfl
    | some opening =>
      have := opening.shorter
      simp only [general_expression opening.rest (n := n) (by omega)]
      cases expression o opening.rest with
      | fault f => rfl
      | hard f => rfl
      | ok t => cases closed : pastSpaced? ')' t.rest <;> simp [closed]
termination_by n

end

theorem general_parse (text : String) {n : Nat} (deep : 10 * text.toList.length + 6 < n) :
    General.parse o text n = some (Expr.parse o text) := by
  rw [General.parse, general_expression text.toList deep, Expr.parse]
  cases expression o text.toList <;> rfl

/-! Every reader leaves an end of its text -/

/-- The recursion comes to an outcome when it may go deep enough. -/
def ComesTo {α : Type} (run : Nat → Option α) (x : α) : Prop :=
  ∃ depth, ∀ n, depth < n → run n = some x

theorem ComesTo.unique {α : Type} {run : Nat → Option α} {x y : α} (h : ComesTo run x)
    (h' : ComesTo run y) : x = y := by
  obtain ⟨depth, comes⟩ := h
  obtain ⟨depth', comes'⟩ := h'
  have first := comes (depth + depth' + 1) (by omega)
  rw [comes' (depth + depth' + 1) (by omega)] at first
  cases first
  rfl

/-- The reader ends at a place and leaves a rest. -/
def Leaves (o : Options) (rest : List Char) : Place → Prop
  | (.expression, s) => ∃ e, ComesTo (General.expression o s) (.ok e rest)
  | (.operands chain, s) => ∃ e, ComesTo (General.operands o chain s) (.ok e rest)
  | (.operator, s) => ∃ op, (operator o s).outcome = .ok op rest
  | (.word word ignoreCase, s) => ∃ v, (keyword word ignoreCase s).outcome = .ok v rest
  | (.term, s) => ∃ e, ComesTo (General.term o s) (.ok e rest)
  | (.primary, s) => ∃ e, ComesTo (General.primary o s) (.ok e rest)
  | (.literal, s) => ∃ e, (literal o s).outcome = .ok e rest
  | (.string, s) => ∃ v, (stringLiteral o.quote.char s).outcome = .ok v rest
  | (.call, s) => ∃ e, ComesTo (General.call o s) (.ok e rest)
  | (.arguments, s) => ∃ es, ComesTo (General.arguments o s) (.ok es rest)
  | (.moreArguments, s) => ∃ es, ComesTo (General.moreArguments o s) (.ok es rest)
  | (.group, s) => ∃ e, ComesTo (General.group o s) (.ok e rest)

theorem Reading.suffix_of_outcome {s rest : List Char} {α : Type} {x : Reading s α} {v : α}
    (read : x.outcome = .ok v rest) : rest <:+ s :=
  (outcome_eq_ok_iff.1 read).suffix

theorem Reading.suffix_of_comesTo {s rest : List Char} {α : Type} {x : Reading s α}
    {run : Nat → Option (Outcome α)} {depth : Nat} (comes : ∀ {n}, depth < n → run n = some x.outcome)
    (h : ∃ v, ComesTo run (.ok v rest)) : rest <:+ s := by
  obtain ⟨v, read⟩ := h
  exact suffix_of_outcome (ComesTo.unique ⟨depth, fun _ => comes⟩ read)

theorem Leaves.suffix {p : Place} {rest : List Char} (h : Leaves o rest p) : rest <:+ p.2 := by
  obtain ⟨reader, s⟩ := p
  cases reader with
  | expression => exact Reading.suffix_of_comesTo (general_expression s) h
  | operands chain => exact Reading.suffix_of_comesTo (general_operands s chain) h
  | term => exact Reading.suffix_of_comesTo (general_term s) h
  | primary => exact Reading.suffix_of_comesTo (general_primary s) h
  | call => exact Reading.suffix_of_comesTo (general_call s) h
  | arguments => exact Reading.suffix_of_comesTo (general_arguments s) h
  | moreArguments => exact Reading.suffix_of_comesTo (general_moreArguments s) h
  | group => exact Reading.suffix_of_comesTo (general_group s) h
  | literal | string | operator | word =>
    obtain ⟨v, read⟩ := h
    exact Reading.suffix_of_outcome read

/-! Calls within calls -/

theorem size_lt_of_transGen {p p' : Place} (calls : Relation.TransGen (Calls o) p p') :
    p'.size < p.size := by
  induction calls with
  | single calls => exact calls.size_lt
  | tail _ calls ih => exact Nat.lt_trans calls.size_lt ih

/-- The operator or the operand of a round may be read from nothing, but not both. -/
theorem operands_round {s r : List Char} {v : Expr} {op : Taken s Operator} (chain : Expr)
    (found : operatorSpaced o s = .ok op) (operand : (term o op.rest).Takes v r) :
    r.length < s.length ∨ (r = s ∧ operands o chain s = .fault ⟨.emptyRound, s⟩) := by
  by_cases shorter : r.length < s.length
  · exact .inl shorter
  · have suffix := operand.suffix.trans op.suffix
    have same := suffix.eq_of_length_le (Nat.le_of_not_lt shorter)
    obtain ⟨_, operand⟩ := operand
    refine .inr ⟨same, ?_⟩
    rw [operands, found]
    simp only [operand, if_neg shorter]

/-- Reading ends and keeps to the text, and there is a tree or an error unless a word stops it. -/
structure Terminates (o : Options) : Prop where
  /-- The recursion without a measure has an outcome for every text, and it is the same. -/
  parses : ∀ (text : String) n, 10 * text.toList.length + 6 < n →
    General.parse o text n = some (Expr.parse o text)
  /-- Calls within calls do not go on for ever. -/
  descends : WellFounded fun p' p => Calls o p p'
  nested : ∀ s r, Relation.TransGen (Calls o) (.expression, s) (.expression, r) →
    r <:+ s ∧ r.length < s.length
  /-- A round of a chain that reads nothing is a fault. -/
  chainRounds : ∀ s chain op v r, operatorSpaced o s = .ok op → (term o op.rest).Takes v r →
    r.length < s.length ∨ (r = s ∧ operands o chain s = .fault ⟨.emptyRound, s⟩)
  argumentRounds : ∀ s opening v r, PastSpaced ',' s opening → (expression o opening).Takes v r →
    r.length < s.length
  memberRounds : ∀ s p name, memberName? s = some (p, name) → p.rest.length < s.length
  leaves : ∀ p rest, Leaves o rest p → rest <:+ p.2
  literals : ∀ text e, Expr.parse o text = .ok e → InOrder e.literalSources text.toList
  /-- Those are all literals of the tree. -/
  noneLeftOut : ∀ (e : Expr) v source, (Expr.literal v source).Within e → source ∈ e.literalSources
  /-- The program stops just where a word that is tried ends in the middle of a character. -/
  stops : ∀ text, Expr.parse o text = .error .aborted ↔
    ∃ word ignoreCase r, ReachesWord o text word ignoreCase r ∧ Torn word ignoreCase r
  /-- With ASCII words that character is the sign for kelvin. -/
  stopsAtKelvin : o.AsciiWhereIgnored → ∀ text, Expr.parse o text = .error .aborted →
    '\u212a' ∈ text.toList ∧ ∃ w ∈ o.readWords, w.2 = true ∧ ('k' ∈ w.1.toList ∨ 'K' ∈ w.1.toList)

/-- Reading ends with any words, also with empty ones, from which an operator and an operand can be
read without moving. -/
theorem terminates (o : Options) : Terminates o where
  parses text _ := general_parse text
  descends := Subrelation.wf Calls.size_lt (measure Place.size).wf
  nested s r calls := by
    have smaller := size_lt_of_transGen calls
    simp only [Place.size] at smaller
    exact ⟨suffix_of_reached calls.to_reflTransGen, by omega⟩
  chainRounds s chain op v r found operand := operands_round chain found operand
  argumentRounds s opening v r passed next := Nat.lt_of_le_of_lt next.length_le passed.length_lt
  memberRounds s p name _ := p.shorter
  leaves p rest left := left.suffix
  literals text e read := inOrder_of_parse read
  noneLeftOut e v source inside := Expr.mem_literalSources_of_within inside
  stops _ := parse_aborted_iff
  stopsAtKelvin ascii _ stopped := kelvin_of_aborted ascii stopped

/-- The conjunction `k` fits the sign for kelvin, of which its one byte is a third. -/
theorem exists_text_that_stops :
    ∃ (o : Options) (text : String), o.AsciiWhereIgnored ∧ Expr.parse o text = .error .aborted := by
  let o : Options := { andWord := "k", ignoreOperatorCase := true }
  refine ⟨o, "a \u212a", by decide +kernel, ?_⟩
  have stopped : expression o "a \u212a".toList matches .hard ⟨.torn, _⟩ := by decide +kernel
  split at stopped
  · exact parse_stopped_iff.2 ⟨_, ‹_›, rfl⟩
  · cases stopped

end ExprLang.Grammar
