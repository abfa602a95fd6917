import Descent.Parser.Store

/-!
# Building parsers

`Grammar.build` turns a definition into a parser, using up cells and slots of the store. It fails
if a regular expression outside of a deferred part does not compile; what it has done to the store
until then stays done. A name that is bound nowhere stands for a rule that was never defined.
-/

namespace Descent

/-- A step of building: a parser or an error, and the store after it. -/
abbrev Build := Store → Except GrammarError Parser × Store

namespace Grammar

/-- Goes on with the parser if there is one. -/
def andThen {α β : Type} (result : Except GrammarError α × Store)
    (next : α → Store → Except GrammarError β × Store) : Except GrammarError β × Store :=
  match result with
  | (.ok a, store) => next a store
  | (.error error, store) => (.error error, store)

/-- Builds a parser around another one. -/
def wrap (make : Parser → Parser) (build : Build) : Build := fun store =>
  andThen (build store) fun parser store => (.ok (make parser), store)

mutual

/-- Builds a definition, given how to build a named one in a scope. -/
def buildWith (rules : Rules) (named : String → Scope → Build) (scope : Scope) : Grammar → Build
  | literal text => fun store => (.ok (.literal text), store)
  | charClass set negate => fun store => (.ok (.charClass set negate), store)
  | pattern expression ignoreCase => fun store =>
    match Pattern.compile? expression ignoreCase with
    | some p => (.ok (.pattern p), store)
    | none => (.error (.invalidPattern expression), store)
  | custom answer => fun store => (.ok (.custom answer), store)
  | sequence parts => fun store =>
    andThen (buildAll rules named scope parts store) fun ps store => (.ok (.sequence ps), store)
  | choice alternatives => fun store =>
    andThen (buildAll rules named scope alternatives store) fun ps store =>
      (.ok (.choice ps), store)
  | many body => wrap .many (buildWith rules named scope body)
  | optional body => wrap .optional (buildWith rules named scope body)
  | deferred body => fun store =>
    (.ok (.deferred store.cells.size), store.addCell ⟨body, rules, scope⟩)
  | rule name => named name scope
  | bind name definition body => fun store =>
    andThen (buildWith rules named scope definition store) fun parser store =>
      buildWith rules named ((name, parser) :: scope) body store
  | recursive name exposed probed body => fun store =>
    let slot := store.slots.size
    let store := store.addSlot
    let store := if exposed then store.expose name slot else store
    let store := if probed then store.probe slot else store
    match buildWith rules named ((name, .handle slot) :: scope) body store with
    | (.ok parser, store) =>
      (.ok (.rule slot), (store.install slot parser).report .installedRule)
    | (.error error, store) =>
      (.error error, (store.install slot (.raise error)).report .installedRule)
  | var name => fun store => (.ok ((scope.lookup name).getD (.raise .undefinedRule)), store)
  | transform f body => wrap (.transform f) (buildWith rules named scope body)
  | tryTransform f body => wrap (.tryTransform f) (buildWith rules named scope body)
  | tag accepts body => wrap (.tag accepts) (buildWith rules named scope body)
  | guarded accepts body => wrap (.guarded accepts) (buildWith rules named scope body)
  | labelled label body => wrap (.labelled label) (buildWith rules named scope body)

/-- Builds definitions in order. -/
def buildAll (rules : Rules) (named : String → Scope → Build) (scope : Scope) :
    List Grammar → Store → Except GrammarError (List Parser) × Store
  | [] => fun store => (.ok [], store)
  | g :: gs => fun store =>
    andThen (buildWith rules named scope g store) fun parser store =>
      andThen (buildAll rules named scope gs store) fun parsers store =>
        (.ok (parser :: parsers), store)

end

/-- Builds the definition of a name, where definitions may refer to others `depth` deep. -/
def buildNamed (rules : Rules) : Nat → String → Scope → Build
  | 0, _, _ => fun store => (.ok (.raise .undefinedRule), store)
  | depth + 1, name, scope =>
    match rules.lookup name with
    | some definition => buildWith rules (buildNamed rules depth) scope definition
    | none => fun store => (.ok (.raise .undefinedRule), store)

/-- Builds a definition. Definitions that do not refer to themselves, other than in deferred parts,
are nested at most as deeply as there are names. -/
def build (rules : Rules) (scope : Scope) (grammar : Grammar) : Build :=
  buildWith rules (buildNamed rules rules.length) scope grammar

end Grammar

/-- Builds a deferred parser. Where that fails, invoking the parser comes to the error. -/
def Factory.run (factory : Factory) (store : Store) : Parser × Store :=
  match factory.body.build factory.rules factory.scope store with
  | (.ok parser, store) => (parser, store)
  | (.error error, store) => (.raise error, store)

end Descent
