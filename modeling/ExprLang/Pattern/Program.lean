import ExprLang.Pattern.Reading

set_option autoImplicit false

/-!
Patterns as programs. A program is a list of instructions that name the instructions after them;
where there are two, the first is to be tried before the second. A part is compiled for the place
where the program goes on after it, so the program is built from its end.
-/

namespace ExprLang.Pattern

inductive Instruction
  | accept
  | read (s : CharSet) (next : Nat)
  | check (l : Look) (next : Nat)
  | mark (slot next : Nat)
  | fork (first second : Nat)

/-- Instructions by number. -/
abbrev Code := Array Instruction

namespace Code

/-- Adds an instruction, and tells its number. -/
def emit (code : Code) (i : Instruction) : Nat × Code := (code.size, code.push i)

/-- Adds a choice between going on into a part and going on after it. -/
def emitFork (code : Code) (greedy : Bool) (into after : Nat) : Nat × Code :=
  code.emit (if greedy then .fork into after else .fork after into)

end Code

/-- Something that can be compiled for the place that comes after it, which yields where it starts.
-/
abbrev Part := Nat → Code → Nat × Code

def Part.times (part : Part) : Nat → Part
  | 0, next, code => (next, code)
  | n + 1, next, code =>
    let (entry, code) := part.times n next code
    part entry code

/-- A part up to a number of times; giving up goes to the very end. -/
def Part.upTo (part : Part) (greedy : Bool) : Nat → Part
  | 0, next, code => (next, code)
  | n + 1, next, code =>
    let (entry, code) := part.upTo greedy n next code
    let (entry, code) := part entry code
    code.emitFork greedy entry next

def Part.many (part : Part) (greedy : Bool) : Part := fun next code =>
  let (loop, code) := code.emit .accept
  let (entry, code) := part loop code
  (entry, code.set! loop (if greedy then .fork entry next else .fork next entry))

/-- A part any number of times. One that may match the empty text is left out as a whole or taken at
least once. -/
def Part.any (part : Part) (mayBeEmpty greedy : Bool) : Part := fun next code =>
  if mayBeEmpty then
    let (entry, code) := part.many greedy next code
    code.emitFork greedy entry next
  else
    let (loop, code) := code.emit .accept
    let (entry, code) := part loop code
    (loop, code.set! loop (if greedy then .fork entry next else .fork next entry))

def Part.repeated (part : Part) (mayBeEmpty greedy : Bool) (least : Nat) : Option Nat → Part
  | none =>
    match least with
    | 0 => part.any mayBeEmpty greedy
    | n + 1 => fun next code =>
      let (entry, code) := part.many greedy next code
      part.times n entry code
  | some most => fun next code =>
    let (entry, code) := part.upTo greedy (most - least) next code
    part.times least entry code

namespace Node

mutual

/-- Compiles a pattern for the place that comes after it. -/
def compile : Node → Part
  | empty => fun next code => (next, code)
  | set s => fun next code => code.emit (.read s next)
  | look l => fun next code => code.emit (.check l next)
  | capture i inner => fun next code =>
    let (close, code) := code.emit (.mark (2 * i + 1) next)
    let (entry, code) := inner.compile close code
    code.emit (.mark (2 * i) entry)
  | concat parts => compileAll parts
  | choice parts => compileChoice parts
  | repetition least most greedy inner =>
    Part.repeated inner.compile inner.mayBeEmpty greedy least most

def compileAll : List Node → Part
  | [] => fun next code => (next, code)
  | p :: ps => fun next code =>
    let (entry, code) := compileAll ps next code
    p.compile entry code

def compileChoice : List Node → Part
  | [] => fun next code => (next, code)
  | [p] => p.compile
  | p :: ps => fun next code =>
    let (second, code) := compileChoice ps next code
    let (first, code) := p.compile next code
    code.emit (.fork first second)

end

end Node

/-- A compiled pattern. The slots `0` and `1` are those of the match, and each group has two more.
-/
structure Program where
  code : Code
  start : Nat
  groups : List (Option String)

namespace Program

/-- Compiles a text that is a pattern. -/
def compile? (pattern : String) : Option Program :=
  (Syntax.parse? pattern.toList).map fun s =>
    let (done, code) := Code.emit #[] .accept
    let (start, code) := (Node.capture 0 s.root).compile done code
    ⟨code, start, s.groups⟩

def groupNumber? (p : Program) (name : String) : Option Nat :=
  (p.groups.idxOf? (some name)).map (· + 1)

end Program

end ExprLang.Pattern
