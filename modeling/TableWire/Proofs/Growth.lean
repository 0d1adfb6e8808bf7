import Mathlib
import TableWire.Proofs.Safety

/-!
Schemas that grow at the end. More text can change the last token, but no closing brace, so that a declaration that was
read is read again, and so is an entry that was refused (`readFrom_continues`). What a session has made of the first
declarations stays as it is when more of them follow (`Session.Extends`), and the code of a declaration depends on
nothing else (`Coded`).
-/
namespace TableWire
open Schema Layout Emit

namespace Schema

/-! ### Reading more text -/

/-- A declaration that ends too early or in the wrong way; what follows may still put it right. -/
def Diagnostic.isGrammar : Diagnostic → Bool
  | .enumGrammar _ | .tableGrammar _ => true
  | _ => false

theorem mapM_congr {ε α β : Type} {f g : α → Except ε β} {list : List α} (same : ∀ a ∈ list, f a = g a) :
    list.mapM f = list.mapM g := by
  induction list with
  | nil => rfl
  | cons first list ih =>
    rw [List.mapM_cons, List.mapM_cons, same first (by simp), ih fun a member => same a (by simp [member])]

theorem Headed.closed {front body : List Token} {name word : Token} (heads : Headed front name word body) :
    ∃ init closing, front = init ++ [closing] ∧ closing.kind = .rightBrace := by
  cases heads with
  | @heading _ colon _ opening closing _ _ _ _ _ _ closed =>
    exact ⟨name :: colon :: word :: opening :: body, closing, rfl, closed⟩

theorem readEntry_append {α : Type} {text : String} (more : String) {read? : List Token → Option α}
    {why : String → Diagnostic} {entry : List Token} (part : entry <:+: scan text) (filled : entry ≠ []) :
    readEntry (text ++ more) read? why entry = readEntry text read? why entry := by
  obtain ⟨front, back, scanned⟩ := part
  rw [List.append_assoc] at scanned
  obtain ⟨before, source, after, split, same⟩ := exists_source scanned.symm filled
  have grown : (text ++ more).toList = before ++ (source ++ (after ++ more.toList)) := by simp [split]
  unfold readEntry refuseEntry
  rw [same text after split, same (text ++ more) _ grown]

section
variable {α : Type} {read : String → List Token → Except Diagnostic (α × List Token)}

/-- What a reader makes of tokens in a text that may go on: it refuses their form, or a closing brace decides its
outcome, whatever follows. -/
inductive Decided (read : String → List Token → Except Diagnostic (α × List Token)) (text more : String)
    (tokens : List Token) : Prop
  | grammar {diagnostic : Diagnostic} (failed : read text tokens = .error diagnostic)
      (isGrammar : diagnostic.isGrammar)
  | closed {front rest : List Token} {closing : Token} {outcome : Except Diagnostic α}
      (closed : closing.kind = .rightBrace) (split : tokens = front ++ closing :: rest)
      (decided : ∀ rest, read text (front ++ closing :: rest) = outcome.map (·, rest) ∧
        read (text ++ more) (front ++ closing :: rest) = outcome.map (·, rest))

/-- A reader that goes through the entries of a closed body is decided by them. -/
theorem Decided.of_entries {β : Type} {text : String} (more : String) {separator : TokenKind}
    {read? : List Token → Option β} {why : String → Diagnostic} {build : List β → α} {front body rest : List Token}
    {name word : Token} (heads : Headed front name word body) (part : front ++ rest <:+: scan text)
    (reads : ∀ text rest, read text (front ++ rest) =
      ((pieces separator body).mapM (readEntry text read? why)).map fun results => (build results, rest)) :
    Decided read text more (front ++ rest) := by
  have same : (pieces separator body).mapM (readEntry (text ++ more) read? why) =
      (pieces separator body).mapM (readEntry text read? why) := by
    refine mapM_congr fun entry listed => ?_
    obtain ⟨inside, filled⟩ := pieces_within listed
    exact readEntry_append more (inside.trans (heads.body_within part)) filled
  have outcome : ∀ rest : List Token,
      ((pieces separator body).mapM (readEntry text read? why)).map (fun results => (build results, rest)) =
        (((pieces separator body).mapM (readEntry text read? why)).map build).map (·, rest) := by
    intro rest
    cases (pieces separator body).mapM (readEntry text read? why) <;> rfl
  obtain ⟨init, closing, rfl, closed⟩ := heads.closed
  simp only [List.append_assoc, List.singleton_append] at reads ⊢
  exact .closed closed rfl fun rest => ⟨(reads text rest).trans (outcome rest), by rw [reads, same, outcome]⟩

end

section
variable {text : String} (more : String) {tokens : List Token} (part : tokens <:+: scan text)
include part

theorem readEnum_decided : Decided readEnum text more tokens := by
  rcases readEnum_headed text tokens with failed | ⟨front, name, word, body, rest, repr, heads, spelled, rfl⟩
  · exact .grammar failed rfl
  · exact .of_entries more heads part fun _ _ => readEnum_eq heads spelled

theorem readTable_decided : Decided readTable text more tokens := by
  rcases readTable_headed text tokens with failed | ⟨front, name, word, body, rest, heads, fourBytes, rfl⟩
  · exact .grammar failed rfl
  · exact .of_entries more heads part fun _ _ => readTable_eq heads fourBytes

end

/-- What becomes of the next declaration when the text goes on. -/
inductive Persists (text more : String) (tokens new : List Token) : Prop
  | nothing (read : readDeclaration text tokens = .ok none)
  | grammar {diagnostic : Diagnostic} (read : readDeclaration text tokens = .error diagnostic)
      (isGrammar : diagnostic.isGrammar)
  | failure {diagnostic : Diagnostic} (read : readDeclaration text tokens = .error diagnostic)
      (again : readDeclaration (text ++ more) new = .error diagnostic)
  | declaration {declaration : Declaration} {rest later : List Token}
      (read : readDeclaration text tokens = .ok (some (declaration, rest)))
      (again : readDeclaration (text ++ more) new = .ok (some (declaration, later))) (grows : Grows rest later)

theorem Decided.persists {α : Type} {read : String → List Token → Except Diagnostic (α × List Token)}
    {text more : String} {tokens skipped new : List Token} {keyword : Token} (decided : Decided read text more tokens)
    (skips : Skips skipped) (declare : α → Declaration)
    (reads : ∀ text rest, readDeclaration text (keyword :: rest) =
      (read text rest).map fun found => some (declare found.1, found.2))
    (grows : Grows (skipped ++ keyword :: tokens) new) : Persists text more (skipped ++ keyword :: tokens) new := by
  cases decided with
  | grammar failed isGrammar =>
    refine .grammar ?_ isGrammar
    rw [skips.readDeclaration_append, reads, failed]
    rfl
  | @closed front rest closing outcome closed split decided =>
    subst split
    rw [← List.cons_append, ← List.append_assoc] at grows
    obtain ⟨later, rfl, grown⟩ := grows.drop closed
    have read := skips.readDeclaration_append text (keyword :: (front ++ closing :: rest))
    have again := skips.readDeclaration_append (text ++ more) (keyword :: (front ++ closing :: later))
    rw [reads, (decided rest).1] at read
    rw [reads, (decided later).2, ← List.cons_append, ← List.append_assoc] at again
    cases outcome with
    | error diagnostic => exact .failure read again
    | ok result => exact .declaration read again grown

theorem persists {text : String} (more : String) {tokens new : List Token} (part : tokens <:+: scan text)
    (grows : Grows tokens new) : Persists text more tokens new := by
  cases begins tokens with
  | nothing schema unread => exact .nothing (unread text)
  | enum skips begun =>
    exact (readEnum_decided more ((behind_within ..).trans part)).persists skips .enum
      (fun _ _ => readDeclaration_enum begun) grows
  | table skips begun =>
    exact (readTable_decided more ((behind_within ..).trans part)).persists skips .table
      (fun _ _ => readDeclaration_table begun) grows

/-- What is read from a text and from the text with more behind it. -/
inductive Continues : List (Except Diagnostic Declaration) → List (Except Diagnostic Declaration) → Prop
  | finished {new : List (Except Diagnostic Declaration)} : Continues [] new
  | grammar {diagnostic : Diagnostic} {new : List (Except Diagnostic Declaration)} (isGrammar : diagnostic.isGrammar) :
      Continues [.error diagnostic] new
  | failure {diagnostic : Diagnostic} : Continues [.error diagnostic] [.error diagnostic]
  | declaration {declaration : Declaration} {old new : List (Except Diagnostic Declaration)}
      (later : Continues old new) : Continues (.ok declaration :: old) (.ok declaration :: new)

theorem readFrom_continues {text : String} (more : String) {tokens new : List Token} (part : tokens <:+: scan text)
    (grows : Grows tokens new) : Continues (readFrom text tokens) (readFrom (text ++ more) new) := by
  induction size : tokens.length using Nat.strong_induction_on generalizing tokens new with
  | _ size ih =>
    subst size
    cases persists more part grows with
    | nothing read =>
      rw [readFrom_none read]
      exact .finished
    | grammar read isGrammar =>
      rw [readFrom_error read]
      exact .grammar isGrammar
    | failure read again =>
      rw [readFrom_error read, readFrom_error again]
      exact .failure
    | declaration read again grows =>
      rw [readFrom_some read, readFrom_some again]
      have inside := (readDeclaration_suffix read).isInfix.trans part
      exact .declaration (ih _ (length_of_readDeclaration read) inside grows rfl)

theorem readAll_continues (text more : String) : Continues (readAll text) (readAll (text ++ more)) :=
  readFrom_continues more (List.infix_refl _) (scan_grows text more)

end Schema

/-! ### Sessions that go on -/

namespace Session

/-- A session that comes after another one and keeps what that has made. -/
structure Extends (session later : Session) : Prop where
  declarations : session.declarations <+: later.declarations
  plans : session.plans <+: later.plans
  chunks : session.chunks <+: later.chunks

theorem Extends.refl (session : Session) : session.Extends session :=
  ⟨List.prefix_refl _, List.prefix_refl _, List.prefix_refl _⟩

theorem Extends.trans {first second third : Session} (early : first.Extends second) (late : second.Extends third) :
    first.Extends third :=
  ⟨early.declarations.trans late.declarations, early.plans.trans late.plans, early.chunks.trans late.chunks⟩

theorem add_extends {session later : Session} {declaration : Declaration}
    (added : session.add declaration = (later, .ok ())) : session.Extends later := by
  cases declaration with
  | enum decl =>
    obtain ⟨-, emitter, chunk, -, rfl⟩ := addEnum_ok added
    exact ⟨List.prefix_append .., List.prefix_refl _, List.prefix_append ..⟩
  | table decl =>
    obtain ⟨members, emitter, chunk, -, -, rfl⟩ := addTable_ok added
    exact ⟨List.prefix_append .., List.prefix_append .., List.prefix_append ..⟩

theorem addAll_extends {session final : Session} {items : List (Except Diagnostic Declaration)}
    (ran : session.addAll items = .ok final) : session.Extends final :=
  addAll_keeps (session.Extends ·) (fun _ early added => early.trans (add_extends added)) (.refl session) ran

/-- A run fails for good, unless on grammar, or the run over more text goes on where it ended. -/
theorem addAll_continues {old new : List (Except Diagnostic Declaration)} (continues : Continues old new)
    (session : Session) :
    (∃ diagnostic, session.addAll old = .error diagnostic ∧
      (diagnostic.isGrammar ∨ session.addAll new = .error diagnostic)) ∨
    ∃ later more, session.addAll old = .ok later ∧ session.addAll new = later.addAll more := by
  induction continues generalizing session with
  | @finished new => exact .inr ⟨session, new, rfl, rfl⟩
  | grammar isGrammar => exact .inl ⟨_, rfl, .inl isGrammar⟩
  | failure => exact .inl ⟨_, rfl, .inr rfl⟩
  | @declaration declaration old new continues ih =>
    rw [addAll, addAll]
    cases added : session.add declaration with
    | mk later outcome =>
      cases outcome with
      | error diagnostic => exact .inl ⟨diagnostic, rfl, .inr rfl⟩
      | ok done => exact ih later

/-- A run that succeeds has compiled what was read, in the order in which it was read. -/
theorem addAll_declarations {session final : Session} {items : List (Except Diagnostic Declaration)}
    (ran : session.addAll items = .ok final) :
    ∃ declarations, items = declarations.map .ok ∧ final.declarations = session.declarations ++ declarations := by
  induction items generalizing session with
  | nil =>
    obtain rfl := Except.ok.inj ran
    exact ⟨[], rfl, (List.append_nil _).symm⟩
  | cons item items ih =>
    cases item with
    | error diagnostic => simp [addAll] at ran
    | ok declaration =>
      rw [addAll] at ran
      split at ran
      · simp at ran
      · next later added =>
        obtain ⟨declarations, rfl, all⟩ := ih ran
        refine ⟨declaration :: declarations, rfl, ?_⟩
        rw [all, add_declarations added, List.append_assoc, List.singleton_append]

end Session

/-! ### The code of a declaration -/

namespace Emit

def enumCode : Target → EnumDecl → String
  | .rust, decl => "\n".intercalate (Rust.enumLines decl)
  | .typeScript, decl => TypeScript.Emitter.emitEnum decl

def tableCode? : Target → Plan → Option String
  | .rust, plan => (Rust.tableLines? plan).map ("\n".intercalate ·)
  | .typeScript, plan => some (TypeScript.Emitter.emitTable plan)

/-- What stands behind the code of all declarations. -/
def closing? : Target → List Plan → Option String
  | .rust, plans => some ("\n".intercalate (Rust.registerLines (plans.map (typeName ·.table))))
  | .typeScript, _ => none

/-- A call that registers a struct. -/
inductive Rust.Registers (struct : String) : String → Prop
  | call : Registers struct s!"    registry.register::<{struct}>();"

/-- The lines of a function that registers structs by one call each, in their order, and does nothing else. -/
structure Rust.RegisterTables (structs calls lines : List String) : Prop where
  each : List.Forall₂ Registers structs calls
  whole : lines = ["/// Binds every table of this schema to its tag.", "pub fn register_tables(" ++
      (if structs.isEmpty then "_registry" else "registry") ++ ": &mut ks::Registry) \x7b"] ++ calls ++ ["\x7d"]

/-- Rust is closed by the registration of some structs, and TypeScript by nothing. -/
inductive Closes : Target → List String → List String → Prop
  | rust {structs calls lines : List String} (registers : Rust.RegisterTables structs calls lines) :
      Closes .rust structs ["\n".intercalate lines]
  | typeScript {structs : List String} : Closes .typeScript structs []

theorem Rust.exists_registerTables (structs : List String) :
    ∃ calls, RegisterTables structs calls (registerLines structs) := by
  refine ⟨structs.map fun struct => s!"    registry.register::<{struct}>();", ?_, rfl⟩
  rw [List.forall₂_map_right_iff, List.forall₂_same]
  exact fun struct _ => .call

theorem closes (target : Target) (plans : List Plan) :
    Closes target (plans.map (typeName ·.table)) (closing? target plans).toList := by
  cases target with
  | rust =>
    obtain ⟨calls, registers⟩ := Rust.exists_registerTables (plans.map (typeName ·.table))
    exact .rust registers
  | typeScript => exact .typeScript

/-- Declarations, the plans of the tables among them, and the code of each declaration. -/
inductive Coded (target : Target) : List Declaration → List Plan → List String → Prop
  | nil : Coded target [] [] []
  | enum {declarations : List Declaration} {plans : List Plan} {codes : List String} (decl : EnumDecl)
      (early : Coded target declarations plans codes) :
      Coded target (declarations ++ [.enum decl]) plans (codes ++ [enumCode target decl])
  | table {declarations : List Declaration} {plans : List Plan} {codes : List String} {decl : TableDecl} {plan : Plan}
      {code : String} (early : Coded target declarations plans codes) (name : plan.table = decl.name)
      (tag : plan.tag = decl.tag) (code? : tableCode? target plan = some code) :
      Coded target (declarations ++ [.table decl]) (plans ++ [plan]) (codes ++ [code])

/-- The output for some plans and the code of the declarations. -/
def outputOf (options : Options) (plans : List Plan) (codes : List String) : String :=
  "\n\n".intercalate ((Emitter.new options).prelude :: codes ++ (closing? options.target plans).toList) ++ "\n"

/-- An emitter that has emitted the tables of some plans. -/
inductive Emits : Target → List Plan → Emitter → Prop
  | rust {plans : List Plan} {emitter : Rust.Emitter} (tables : emitter.tables = plans.map (typeName ·.table)) :
      Emits .rust plans (.rust emitter)
  | typeScript {plans : List Plan} {emitter : TypeScript.Emitter} : Emits .typeScript plans (.typeScript emitter)

namespace Emits
variable {target : Target} {plans : List Plan} {emitter later : Emitter} {chunk : String}
  (emits : Emits target plans emitter)
include emits

theorem enum {decl : EnumDecl} (emitted : emitter.emitEnum decl = (later, .ok chunk)) :
    chunk = enumCode target decl ∧ Emits target plans later := by
  cases emits with
  | rust tables =>
    obtain ⟨later, rfl, written⟩ := Emitter.emitEnum_rust emitted
    obtain ⟨-, -, same, rfl⟩ := Rust.Emitter.emitEnum_ok written
    exact ⟨rfl, .rust (same.trans tables)⟩
  | typeScript =>
    obtain ⟨rfl, same⟩ := Prod.mk.inj emitted
    exact ⟨(Except.ok.inj same).symm, .typeScript⟩

theorem table {plan : Plan} (emitted : emitter.emitTable plan = (later, .ok chunk)) :
    tableCode? target plan = some chunk ∧ Emits target (plans ++ [plan]) later := by
  cases emits with
  | rust tables =>
    obtain ⟨later, rfl, written⟩ := Emitter.emitTable_rust emitted
    obtain ⟨-, -, -, more, code⟩ := Rust.Emitter.emitTable_ok written
    exact ⟨code, .rust (by rw [more, tables, List.map_append, List.map_singleton])⟩
  | typeScript =>
    obtain ⟨rfl, same⟩ := Prod.mk.inj emitted
    exact ⟨congrArg some (Except.ok.inj same), .typeScript⟩

theorem finish?_eq : emitter.finish? = closing? target plans := by
  cases emits with
  | rust tables => rw [Emitter.finish?, Rust.Emitter.finish, tables, closing?]
  | typeScript => rfl

end Emits
end Emit

namespace Session

/-- A session whose chunks are the prelude and the code of its declarations. -/
structure Codes (options : Options) (session : Session) : Prop where
  emits : Emits options.target session.plans session.emitter
  coded : ∃ codes, session.chunks = (Emitter.new options).prelude :: codes ∧
    Coded options.target session.declarations session.plans codes

theorem Codes.start (options : Options) : (Session.start options).Codes options := by
  refine ⟨?_, [], rfl, .nil⟩
  obtain ⟨target, path⟩ := options
  cases target with
  | rust => exact .rust rfl
  | typeScript => exact .typeScript

theorem Codes.add {options : Options} {session later : Session} (codes : session.Codes options)
    {declaration : Declaration} (added : session.add declaration = (later, .ok ())) : later.Codes options := by
  obtain ⟨emits, early, chunks, coded⟩ := codes
  cases declaration with
  | enum decl =>
    obtain ⟨-, emitter, chunk, emitted, rfl⟩ := addEnum_ok added
    obtain ⟨rfl, still⟩ := emits.enum emitted
    exact ⟨still, early ++ [enumCode options.target decl], by rw [chunks, List.cons_append], coded.enum decl⟩
  | table decl =>
    obtain ⟨members, emitter, chunk, -, emitted, rfl⟩ := addTable_ok added
    obtain ⟨code, still⟩ := emits.table emitted
    exact ⟨still, early ++ [chunk], by rw [chunks, List.cons_append], coded.table rfl rfl code⟩

theorem Codes.addAll {options : Options} {session final : Session} {items : List (Except Diagnostic Declaration)}
    (codes : session.Codes options) (ran : session.addAll items = .ok final) : final.Codes options :=
  addAll_keeps (Codes options) (fun _ codes added => codes.add added) codes ran

theorem Codes.output {options : Options} {session : Session} {codes : List String} (coding : session.Codes options)
    (chunks : session.chunks = (Emitter.new options).prelude :: codes) :
    session.finish.output = outputOf options session.plans codes := by
  rw [finish, outputOf, coding.emits.finish?_eq, chunks]

end Session

/-- More text behind a schema leaves alone what was compiled: declarations, plans and the code of each declaration stay
and more of them follow. A failure stays too, unless it is that a declaration has not the right form. What was compiled
are the declarations that were read. -/
theorem compile_append (text more : String) (options : Options) :
    (∀ first second, compile text options = .ok first → compile (text ++ more) options = .ok second →
      first.declarations <+: second.declarations ∧ first.plans <+: second.plans ∧
      ∃ codes later, Coded options.target first.declarations first.plans codes ∧
        Coded options.target second.declarations second.plans (codes ++ later) ∧
        first.output = outputOf options first.plans codes ∧
        second.output = outputOf options second.plans (codes ++ later)) ∧
    (∀ diagnostic, compile text options = .error diagnostic → ¬ diagnostic.isGrammar →
      compile (text ++ more) options = .error diagnostic) ∧
    ∀ compilation, compile text options = .ok compilation → parse text = .ok compilation.declarations := by
  have run := (Session.start options).addAll_continues (readAll_continues text more)
  refine ⟨?_, ?_, ?_⟩
  · intro first second compiled grown
    obtain ⟨session, ran, rfl⟩ := map_ok_iff.mp compiled
    obtain ⟨final, ranOn, rfl⟩ := map_ok_iff.mp grown
    rcases run with ⟨diagnostic, failed, -⟩ | ⟨later, items, ranAgain, goesOn⟩
    · simp [ran] at failed
    · obtain rfl : session = later := Except.ok.inj (ran.symm.trans ranAgain)
      rw [goesOn] at ranOn
      have coding := (Session.Codes.start options).addAll ran
      have codingOn := coding.addAll ranOn
      have extended := Session.addAll_extends ranOn
      obtain ⟨codes, chunks, coded⟩ := coding.coded
      obtain ⟨allCodes, allChunks, allCoded⟩ := codingOn.coded
      have kept := extended.chunks
      rw [chunks, allChunks] at kept
      obtain ⟨later, rfl⟩ := (List.cons_prefix_cons.mp kept).2
      exact ⟨extended.declarations, extended.plans, codes, later, coded, allCoded, coding.output chunks,
        codingOn.output allChunks⟩
  · intro diagnostic failed noGrammar
    rcases run with ⟨other, failedRun, isGrammar | again⟩ | ⟨later, items, ran, -⟩
    · rw [map_error_iff.mp failed] at failedRun
      exact absurd (Except.error.inj failedRun ▸ isGrammar) noGrammar
    · rw [map_error_iff.mp failed] at failedRun
      obtain rfl := Except.error.inj failedRun
      exact map_error_iff.mpr again
    · simp [map_error_iff.mp failed] at ran
  · intro compilation compiled
    obtain ⟨session, ran, rfl⟩ := map_ok_iff.mp compiled
    obtain ⟨declarations, read, all⟩ := Session.addAll_declarations ran
    rw [parse_ok_iff, read]
    exact congrArg _ all.symm

/-- An enum stays when the text, cut inside a word, goes on with a table. A table with an unknown type stays refused
when the slash behind it becomes a comment. -/
theorem cut_word_append :
    (∃ first second, compile "enum E: byte \x7b A \x7d nam" (.ofTarget .rust) = .ok first ∧
      compile ("enum E: byte \x7b A \x7d nam" ++ "espace n; table T: TTTT \x7b e: E \x7d") (.ofTarget .rust) =
        .ok second ∧
      first.declarations <+: second.declarations ∧ first.plans <+: second.plans) ∧
    compile ("table T: TTTT \x7b n: Nope \x7d /" ++ "/ table") (.ofTarget .typeScript) =
      .error (.unknownType ⟨"T", "n", "Nope"⟩) := by
  constructor
  · have early : (compile "enum E: byte \x7b A \x7d nam" (.ofTarget .rust)).toOption.isSome := by decide +kernel
    have late : (compile ("enum E: byte \x7b A \x7d nam" ++ "espace n; table T: TTTT \x7b e: E \x7d")
        (.ofTarget .rust)).toOption.isSome := by decide +kernel
    obtain ⟨first, compiled⟩ := exists_ok early
    obtain ⟨second, grown⟩ := exists_ok late
    obtain ⟨declarations, plans, -⟩ := (compile_append _ _ _).1 first second compiled grown
    exact ⟨first, second, compiled, grown, declarations, plans⟩
  · have refused : (compile "table T: TTTT \x7b n: Nope \x7d /" (.ofTarget .typeScript)).map (·.output) =
        .error (.unknownType ⟨"T", "n", "Nope"⟩) := by decide +kernel
    exact (compile_append _ _ _).2.1 _ (map_error_iff.mp refused) (by decide)

end TableWire
