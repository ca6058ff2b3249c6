import Plug.JsonPaths
import Plug.Templates
import Plug.TextSearch

/-!
# References of an API's schemas

A schema is inlined so that a client that never sees the document can read it: each reference is
replaced by what it names, and what is named there is inlined as well. The references that are
being followed are on a stack, and one that is on it already, or comes when the stack is full, is
not followed. The stack is shared by all parts of a schema.
-/

namespace Plug.OpenApi

open JsonValues (Value lookup)

/-- How deep references are followed. -/
def maxSchemaDepth : Nat := 12

/-! ### JSON pointers -/

/-- The index of an array that a token names: decimal, with no sign and no leading zero. -/
def parseIndex (token : List Char) : Option Nat :=
  if token.head? = some '+' ∨ (token.head? = some '0' ∧ token.length ≠ 1) then none
  else Text.parseU64 token

def unescaped (token : List Char) : List Char :=
  Templates.replace "~0".toList ['~'] (Templates.replace "~1".toList ['/'] token)

/-- What one token of a pointer leads to. -/
def descend (value : Value) (token : List Char) : Option Value :=
  match value with
  | .object members => lookup (String.ofList token) members
  | .array items => (parseIndex token).bind fun index => items[index]?
  | _ => none

/-- `serde_json::Value::pointer`. -/
def pointer (value : Value) (path : List Char) : Option Value :=
  match path with
  | [] => some value
  | first :: rest =>
    if first = '/' then ((rest.splitOn '/').map unescaped).foldlM descend value else none

/-- What a reference within the document names. -/
def target (root : Value) (reference : String) : Option Value :=
  (Text.stripPrefix ['#'] reference.toList).bind (pointer root)

/-- Follow a reference to what it names, and on from there. Anything else is returned as it is. -/
def resolveWithin (root : Value) : Nat → Value → Value
  | 0, value => value
  | left + 1, value =>
    match ((value.member? "$ref").bind Value.asStr).bind (target root) with
    | some named => resolveWithin root left named
    | none => value

def resolve (root value : Value) : Value :=
  resolveWithin root maxSchemaDepth value

/-! ### Inlining -/

/-- The stack is handed from each item to the next. -/
def visitEach (visit : Value → List String → Option (Value × List String)) :
    List Value → List String → Option (List Value × List String)
  | [], stack => some ([], stack)
  | item :: rest, stack => do
    let (inlined, stack) ← visit item stack
    let (others, stack) ← visitEach visit rest stack
    some (inlined :: others, stack)

/-- A schema with its references inlined, and the stack after that, when the calls nest no deeper
than the fuel. -/
def inlineSchema (root : Value) : Nat → Value → List String → Option (Value × List String)
  | 0, _, _ => none
  | fuel + 1, schema, stack =>
    match schema with
    | .object members =>
      match (lookup "$ref" members).bind Value.asStr with
      | some reference =>
        match target root reference with
        | some named =>
          if reference ∉ stack ∧ stack.length < maxSchemaDepth then do
            let (inlined, stack) ← inlineSchema root fuel named (stack ++ [reference])
            some (inlined, stack.dropLast)
          else some (.object [], stack)
        | none => some (.object [], stack)
      | none => do
        let (values, stack) ← visitEach (inlineSchema root fuel) (members.map Prod.snd) stack
        some (.object ((members.map Prod.fst).zip values), stack)
    | .array items => do
      let (items, stack) ← visitEach (inlineSchema root fuel) items stack
      some (.array items, stack)
    | other => some (other, stack)

/-! ### What a schema is made of -/

/-- A value is within another one, at any depth. -/
inductive Within (inner : Value) : Value → Prop where
  | self : Within inner inner
  | item {items : List Value} {item : Value} (among : item ∈ items) (deeper : Within inner item) :
      Within inner (.array items)
  | member {members : List (String × Value)} {member : String × Value} (among : member ∈ members)
      (deeper : Within inner member.2) : Within inner (.object members)

/-- Every reference of a value is written as text. -/
def TextReferences (value : Value) : Prop :=
  ∀ members, Within (.object members) value →
    ∀ reference, lookup "$ref" members = some reference → ∃ text, reference = .string text

/-- A value has no reference. -/
def ReferenceFree (value : Value) : Prop :=
  ∀ members, Within (.object members) value → lookup "$ref" members = none

/-- The references that are reached from a schema all name something, none of them leads back to
itself, and they nest no deeper than the number. -/
inductive Nests (root : Value) : Nat → Value → Prop where
  | reference {depth : Nat} {members : List (String × Value)} {reference : String} {named : Value}
      (refers : lookup "$ref" members = some (.string reference))
      (names : target root reference = some named) (deeper : Nests root depth named) :
      Nests root (depth + 1) (.object members)
  | object {depth : Nat} {members : List (String × Value)}
      (plain : lookup "$ref" members = none)
      (deeper : ∀ member ∈ members, Nests root depth member.2) :
      Nests root depth (.object members)
  | array {depth : Nat} {items : List Value} (deeper : ∀ item ∈ items, Nests root depth item) :
      Nests root depth (.array items)
  | scalar {depth : Nat} {value : Value} (noItems : value.asArray = none)
      (noMembers : value.asObject = none) : Nests root depth value

/-- A schema is another one with each reference replaced by the inlined schema that it names. -/
inductive Inlined (root : Value) : Value → Value → Prop where
  | reference {members : List (String × Value)} {reference : String} {named inlined : Value}
      (refers : lookup "$ref" members = some (.string reference))
      (names : target root reference = some named) (deeper : Inlined root named inlined) :
      Inlined root (.object members) inlined
  | object {members : List (String × Value)} {values : List Value}
      (plain : lookup "$ref" members = none)
      (deeper : List.Forall₂ (Inlined root) (members.map Prod.snd) values) :
      Inlined root (.object members) (.object ((members.map Prod.fst).zip values))
  | array {items inlined : List Value} (deeper : List.Forall₂ (Inlined root) items inlined) :
      Inlined root (.array items) (.array inlined)
  | scalar {value : Value} (noItems : value.asArray = none) (noMembers : value.asObject = none) :
      Inlined root value value

variable {root schema value inner outer result : Value} {members : List (String × Value)}
  {items results : List Value} {stack after : List String} {fuel depth : Nat}

theorem Within.trans (first : Within value inner) (second : Within inner outer) :
    Within value outer := by
  induction second with
  | self => exact first
  | item among _ ih => exact .item among ih
  | member among _ ih => exact .member among ih

theorem TextReferences.within (textual : TextReferences outer) (inside : Within inner outer) :
    TextReferences inner :=
  fun members deeper => textual members (deeper.trans inside)

theorem mem_of_lookup {key : String} (found : lookup key members = some value) :
    (key, value) ∈ members := by
  obtain ⟨member, first, rfl⟩ := Option.map_eq_some_iff.mp found
  have same : member.1 = key := by simpa using List.find?_some first
  exact same ▸ List.mem_of_find?_eq_some first

theorem descend_within {token : List Char} (led : descend outer token = some inner) :
    Within inner outer := by
  unfold descend at led
  split at led
  · exact .member (mem_of_lookup led) .self
  · obtain ⟨index, _, found⟩ := Option.bind_eq_some_iff.mp led
    exact .item (List.mem_of_getElem? found) .self
  · cases led

theorem descendAll_within {tokens : List (List Char)}
    (led : tokens.foldlM descend outer = some inner) : Within inner outer := by
  induction tokens generalizing outer with
  | nil =>
    cases led
    exact .self
  | cons token tokens ih =>
    rw [List.foldlM_cons] at led
    obtain ⟨next, first, later⟩ := Option.bind_eq_some_iff.mp led
    exact (ih later).trans (descend_within first)

variable {reference : String}

/-- A reference names a part of the document. -/
theorem target_within (names : target root reference = some value) : Within value root := by
  obtain ⟨path, _, pointed⟩ := Option.bind_eq_some_iff.mp names
  unfold pointer at pointed
  split at pointed
  · cases pointed
    exact .self
  · split at pointed
    · exact descendAll_within pointed
    · cases pointed

/-! ### One call -/

theorem inlineSchema_reference
    (refers : (lookup "$ref" members).bind Value.asStr = some reference) :
    inlineSchema root (fuel + 1) (.object members) stack =
      match target root reference with
      | some named =>
        if reference ∉ stack ∧ stack.length < maxSchemaDepth then
          (inlineSchema root fuel named (stack ++ [reference])).map fun (inlined, stack) =>
            (inlined, stack.dropLast)
        else some (.object [], stack)
      | none => some (.object [], stack) := by
  rw [inlineSchema, refers]
  dsimp only
  cases target root reference with
  | none => rfl
  | some named =>
    by_cases follow : reference ∉ stack ∧ stack.length < maxSchemaDepth
    · dsimp only
      rw [if_pos follow, if_pos follow]
      cases inlineSchema root fuel named (stack ++ [reference]) <;> rfl
    · dsimp only
      rw [if_neg follow, if_neg follow]

theorem inlineSchema_object (plain : (lookup "$ref" members).bind Value.asStr = none) :
    inlineSchema root (fuel + 1) (.object members) stack =
      (visitEach (inlineSchema root fuel) (members.map Prod.snd) stack).map fun (values, stack) =>
        (.object ((members.map Prod.fst).zip values), stack) := by
  rw [inlineSchema, plain]
  dsimp only
  cases visitEach (inlineSchema root fuel) (members.map Prod.snd) stack <;> rfl

theorem inlineSchema_array :
    inlineSchema root (fuel + 1) (.array items) stack =
      (visitEach (inlineSchema root fuel) items stack).map fun (items, stack) =>
        (.array items, stack) := by
  rw [inlineSchema]
  cases visitEach (inlineSchema root fuel) items stack <;> rfl

theorem inlineSchema_scalar (noItems : value.asArray = none) (noMembers : value.asObject = none) :
    inlineSchema root (fuel + 1) value stack = some (value, stack) := by
  cases value with
  | object => cases noMembers
  | array => cases noItems
  | null | bool | number | decimal | string => rfl

/-- What visiting one item does with the stack and makes of the item, visiting all of them does. -/
theorem visitEach_spec {visit : Value → List String → Option (Value × List String)}
    {Makes : Value → Value → Prop}
    (each : ∀ item ∈ items, ∀ inlined after, visit item stack = some (inlined, after) →
      after = stack ∧ Makes item inlined)
    (visited : visitEach visit items stack = some (results, after)) :
    after = stack ∧ List.Forall₂ Makes items results := by
  induction items generalizing results with
  | nil =>
    cases visited
    exact ⟨rfl, .nil⟩
  | cons item items ih =>
    rw [visitEach] at visited
    obtain ⟨⟨inlined, between⟩, first, visited⟩ := Option.bind_eq_some_iff.mp visited
    obtain ⟨⟨others, last⟩, later, visited⟩ := Option.bind_eq_some_iff.mp visited
    cases visited
    obtain ⟨rfl, made⟩ := each item List.mem_cons_self inlined between first
    obtain ⟨kept, others⟩ := ih
      (fun item among => each item (List.mem_cons_of_mem _ among)) later
    exact ⟨kept, .cons made others⟩

/-- The stack is left as it was found. -/
theorem inlineSchema_stack (inlined : inlineSchema root fuel schema stack = some (result, after)) :
    after = stack := by
  induction fuel generalizing schema stack result after with
  | zero => cases inlined
  | succ fuel ih =>
    have each (items : List Value) (stack : List String) : ∀ item ∈ items, ∀ inlined after,
        inlineSchema root fuel item stack = some (inlined, after) → after = stack ∧ True :=
      fun _ _ _ _ inlined => ⟨ih inlined, trivial⟩
    cases schema with
    | object members =>
      cases refers : (lookup "$ref" members).bind Value.asStr with
      | some reference =>
        rw [inlineSchema_reference refers] at inlined
        split at inlined
        · split at inlined
          · obtain ⟨⟨value, pushed⟩, followed, popped⟩ := Option.map_eq_some_iff.mp inlined
            cases popped
            rw [ih followed, List.dropLast_concat]
          · cases inlined
            rfl
        · cases inlined
          rfl
      | none =>
        rw [inlineSchema_object refers] at inlined
        obtain ⟨⟨values, last⟩, visited, made⟩ := Option.map_eq_some_iff.mp inlined
        cases made
        exact (visitEach_spec (each _ stack) visited).1
    | array items =>
      rw [inlineSchema_array] at inlined
      obtain ⟨⟨values, last⟩, visited, made⟩ := Option.map_eq_some_iff.mp inlined
      cases made
      exact (visitEach_spec (each _ stack) visited).1
    | null | bool | number | decimal | string =>
      rw [inlineSchema_scalar rfl rfl] at inlined
      cases inlined
      rfl

/-! ### No reference is left -/

theorem referenceFree_empty : ReferenceFree (.object []) := by
  intro members inside
  cases inside with
  | self => rfl
  | member among _ => cases among

theorem referenceFree_scalar (noItems : value.asArray = none) (noMembers : value.asObject = none) :
    ReferenceFree value := by
  intro members inside
  cases inside with
  | self => cases noMembers
  | item => cases noItems
  | member => cases noMembers

theorem referenceFree_array (each : ∀ item ∈ items, ReferenceFree item) :
    ReferenceFree (.array items) := by
  intro members inside
  cases inside with
  | item among deeper => exact each _ among members deeper

theorem lookup_zip (plain : lookup "$ref" members = none) (values : List Value) :
    lookup "$ref" ((members.map Prod.fst).zip values) = none := by
  unfold lookup at *
  rw [Option.map_eq_none_iff, List.find?_eq_none] at plain ⊢
  intro member among
  obtain ⟨original, own, key⟩ := List.mem_map.mp (List.of_mem_zip among).1
  exact key ▸ plain original own

theorem referenceFree_object {values : List Value} (plain : lookup "$ref" members = none)
    (each : ∀ value ∈ values, ReferenceFree value) :
    ReferenceFree (.object ((members.map Prod.fst).zip values)) := by
  intro inner inside
  cases inside with
  | self => exact lookup_zip plain values
  | member among deeper => exact each _ (List.of_mem_zip among).2 inner deeper

/-- Without a reference written as text, a value of which every reference is has none. -/
theorem TextReferences.plain (textual : TextReferences (.object members))
    (unwritten : (lookup "$ref" members).bind Value.asStr = none) : lookup "$ref" members = none := by
  cases found : lookup "$ref" members with
  | none => rfl
  | some reference =>
    obtain ⟨text, rfl⟩ := textual members .self reference found
    rw [found] at unwritten
    cases unwritten

/-- What each item is made into, the items of the result are. -/
theorem of_forall₂ {Made : Value → Prop} (each : List.Forall₂ (fun _ made => Made made) items results) :
    ∀ made ∈ results, Made made := by
  induction each with
  | nil => exact fun _ among => absurd among List.not_mem_nil
  | cons first _ ih => exact List.forall_mem_cons.mpr ⟨first, ih⟩

theorem inlineSchema_referenceFree (document : TextReferences root) (textual : TextReferences schema)
    (inlined : inlineSchema root fuel schema stack = some (result, after)) :
    ReferenceFree result := by
  induction fuel generalizing schema stack result after with
  | zero => cases inlined
  | succ fuel ih =>
    have each {items : List Value} (within : ∀ item ∈ items, Within item schema)
        (stack : List String) : ∀ item ∈ items, ∀ inlined after,
          inlineSchema root fuel item stack = some (inlined, after) →
            after = stack ∧ ReferenceFree inlined :=
      fun item among _ _ inlined => ⟨inlineSchema_stack inlined,
        ih (textual.within (within item among)) inlined⟩
    cases schema with
    | object members =>
      cases refers : (lookup "$ref" members).bind Value.asStr with
      | some reference =>
        rw [inlineSchema_reference refers] at inlined
        split at inlined
        · rename_i named names
          split at inlined
          · obtain ⟨⟨value, pushed⟩, followed, popped⟩ := Option.map_eq_some_iff.mp inlined
            cases popped
            exact ih (document.within (target_within names)) followed
          · cases inlined
            exact referenceFree_empty
        · cases inlined
          exact referenceFree_empty
      | none =>
        rw [inlineSchema_object refers] at inlined
        obtain ⟨⟨values, last⟩, visited, made⟩ := Option.map_eq_some_iff.mp inlined
        cases made
        have within : ∀ item ∈ members.map Prod.snd, Within item (.object members) := by
          intro item among
          obtain ⟨member, own, rfl⟩ := List.mem_map.mp among
          exact .member own .self
        exact referenceFree_object (textual.plain refers)
          (of_forall₂ (visitEach_spec (each within stack) visited).2)
    | array items =>
      rw [inlineSchema_array] at inlined
      obtain ⟨⟨values, last⟩, visited, made⟩ := Option.map_eq_some_iff.mp inlined
      cases made
      have within : ∀ item ∈ items, Within item (.array items) := fun _ among => .item among .self
      exact referenceFree_array (of_forall₂ (visitEach_spec (each within stack) visited).2)
    | null | bool | number | decimal | string =>
      rw [inlineSchema_scalar rfl rfl] at inlined
      cases inlined
      exact referenceFree_scalar rfl rfl

/-! ### References that nest -/

theorem Nests.mono (nests : Nests root depth schema) : Nests root (depth + 1) schema := by
  induction nests with
  | reference refers names _ ih => exact .reference refers names ih
  | object plain _ ih => exact .object plain ih
  | array _ ih => exact .array ih
  | scalar noItems noMembers => exact .scalar noItems noMembers

/-- A reference nests less deep than the schema that is the reference. -/
theorem Nests.of_reference {named : Value}
    (refers : lookup "$ref" members = some (.string reference))
    (names : target root reference = some named) (nests : Nests root depth (.object members)) :
    ∃ less, depth = less + 1 ∧ Nests root less named := by
  cases nests with
  | reference ownRefers ownNames deeper =>
    rw [refers] at ownRefers
    cases ownRefers
    rw [names] at ownNames
    cases ownNames
    exact ⟨_, rfl, deeper⟩
  | object plain => rw [refers] at plain; cases plain
  | scalar _ noMembers => cases noMembers

/-- Nothing that nests leads back to itself. -/
theorem Nests.not_below (nests : Nests root depth value)
    (below : ∀ depth, Nests root depth value → ∃ less, depth = less + 1 ∧ Nests root less value) :
    False := by
  induction depth with
  | zero =>
    obtain ⟨less, impossible, _⟩ := below 0 nests
    cases impossible
  | succ depth ih =>
    obtain ⟨less, same, deeper⟩ := below _ nests
    cases same
    exact ih deeper

/-- What is on the stack leads to the schema: the schema nests as deep as each of it, at most. -/
def Leads (root : Value) (stack : List String) (schema : Value) : Prop :=
  ∀ seen ∈ stack, ∃ named, target root seen = some named ∧
    ∀ depth, Nests root depth named → Nests root depth schema

theorem Leads.part {part : Value} (leads : Leads root stack schema)
    (narrows : ∀ depth, Nests root depth schema → Nests root depth part) :
    Leads root stack part := by
  intro seen among
  obtain ⟨named, names, bounds⟩ := leads seen among
  exact ⟨named, names, fun depth nests => narrows depth (bounds depth nests)⟩

theorem Nests.of_member {member : String × Value} (plain : lookup "$ref" members = none)
    (among : member ∈ members) (nests : Nests root depth (.object members)) :
    Nests root depth member.2 := by
  cases nests with
  | reference refers => rw [plain] at refers; cases refers
  | object _ deeper => exact deeper member among
  | scalar _ noMembers => cases noMembers

theorem Nests.of_item {item : Value} (among : item ∈ items)
    (nests : Nests root depth (.array items)) : Nests root depth item := by
  cases nests with
  | array deeper => exact deeper item among
  | scalar noItems => cases noItems

/-- A reference that nests is not on the stack, and what it names is led to by the longer stack. -/
theorem Leads.follow {named : Value} (leads : Leads root stack (.object members))
    (refers : lookup "$ref" members = some (.string reference))
    (names : target root reference = some named) (nests : Nests root depth named) :
    reference ∉ stack ∧ Leads root (stack ++ [reference]) named := by
  constructor
  · intro cyclic
    obtain ⟨again, same, bounds⟩ := leads reference cyclic
    rw [names] at same
    cases same
    exact nests.not_below fun depth nests => (bounds depth nests).of_reference refers names
  · intro seen among
    rcases List.mem_append.mp among with before | last
    · obtain ⟨first, firstNames, bounds⟩ := leads seen before
      refine ⟨first, firstNames, fun depth nests => ?_⟩
      obtain ⟨less, rfl, deeper⟩ := (bounds depth nests).of_reference refers names
      exact deeper.mono
    · rw [List.mem_singleton.mp last]
      exact ⟨named, names, fun _ nests => nests⟩

theorem inlineSchema_inlined (nests : Nests root depth schema)
    (room : depth + stack.length ≤ maxSchemaDepth) (leads : Leads root stack schema)
    (inlined : inlineSchema root fuel schema stack = some (result, after)) :
    Inlined root schema result := by
  induction fuel generalizing schema stack result after depth with
  | zero => cases inlined
  | succ fuel ih =>
    cases schema with
    | object members =>
      cases nests with
      | @reference less _ reference named refers names deeper =>
        obtain ⟨fresh, longer⟩ := leads.follow refers names deeper
        have written : (lookup "$ref" members).bind Value.asStr = some reference := by
          rw [refers]
          rfl
        have follow : reference ∉ stack ∧ stack.length < maxSchemaDepth := ⟨fresh, by omega⟩
        rw [inlineSchema_reference written, names] at inlined
        dsimp only at inlined
        rw [if_pos follow] at inlined
        obtain ⟨⟨value, pushed⟩, followed, popped⟩ := Option.map_eq_some_iff.mp inlined
        cases popped
        have less : less + (stack ++ [reference]).length ≤ maxSchemaDepth := by
          rw [List.length_append, List.length_singleton]
          omega
        exact .reference refers names (ih deeper less longer followed)
      | object plain deeper =>
        have unwritten : (lookup "$ref" members).bind Value.asStr = none := by
          rw [plain]
          rfl
        rw [inlineSchema_object unwritten] at inlined
        obtain ⟨⟨values, last⟩, visited, made⟩ := Option.map_eq_some_iff.mp inlined
        cases made
        refine .object plain (visitEach_spec ?_ visited).2
        intro item among value after inlined
        obtain ⟨member, own, rfl⟩ := List.mem_map.mp among
        exact ⟨inlineSchema_stack inlined, ih (deeper member own) room
          (leads.part fun _ => Nests.of_member plain own) inlined⟩
      | scalar _ noMembers => cases noMembers
    | array items =>
      rw [inlineSchema_array] at inlined
      obtain ⟨⟨values, last⟩, visited, made⟩ := Option.map_eq_some_iff.mp inlined
      cases made
      refine .array (visitEach_spec ?_ visited).2
      intro item among value after inlined
      exact ⟨inlineSchema_stack inlined, ih (nests.of_item among) room
        (leads.part fun _ => Nests.of_item among) inlined⟩
    | null | bool | number | decimal | string =>
      rw [inlineSchema_scalar rfl rfl] at inlined
      cases inlined
      exact .scalar rfl rfl

/-! ### Every call returns -/

/-- With enough fuel a visit returns, with one result, and the stack is as it was. -/
def Returns (visit : Nat → Value → List String → Option (Value × List String)) (schema : Value)
    (stack : List String) : Prop :=
  ∃ result enough, ∀ fuel, enough ≤ fuel → visit fuel schema stack = some (result, stack)

theorem visitEach_returns {visit : Nat → Value → List String → Option (Value × List String)}
    (each : ∀ item ∈ items, Returns visit item stack) :
    ∃ results enough, ∀ fuel, enough ≤ fuel →
      visitEach (visit fuel) items stack = some (results, stack) := by
  induction items with
  | nil => exact ⟨[], 0, fun _ _ => rfl⟩
  | cons item items ih =>
    obtain ⟨first, enoughFirst, visitFirst⟩ := each item List.mem_cons_self
    obtain ⟨others, enoughOthers, visitOthers⟩ :=
      ih fun item among => each item (List.mem_cons_of_mem _ among)
    refine ⟨first :: others, max enoughFirst enoughOthers, fun fuel enough => ?_⟩
    rw [visitEach, visitFirst fuel (by omega)]
    change (visitEach (visit fuel) items stack).bind _ = _
    rw [visitOthers fuel (by omega)]
    rfl

theorem Returns.of_succ (result : Value) (enough : Nat)
    (returned : ∀ fuel, enough ≤ fuel →
      inlineSchema root (fuel + 1) schema stack = some (result, stack)) :
    Returns (inlineSchema root) schema stack := by
  refine ⟨result, enough + 1, fun fuel more => ?_⟩
  cases fuel with
  | zero => omega
  | succ fuel => exact returned fuel (by omega)

/-- A schema's inlining returns, when that of what its references name does. The induction is on
the size of the schema. -/
theorem returns_of_follow
    (follow : ∀ reference named, target root reference = some named →
      stack.length < maxSchemaDepth →
      Returns (inlineSchema root) named (stack ++ [reference]))
    (schema : Value) : Returns (inlineSchema root) schema stack := by
  induction size : sizeOf schema using Nat.strongRecOn generalizing schema with
  | ind size ih =>
    subst size
    cases schema with
    | object members =>
      cases refers : (lookup "$ref" members).bind Value.asStr with
      | some reference =>
        cases names : target root reference with
        | none =>
          refine .of_succ (.object []) 0 fun fuel _ => ?_
          rw [inlineSchema_reference refers, names]
        | some named =>
          by_cases fresh : reference ∉ stack ∧ stack.length < maxSchemaDepth
          · obtain ⟨inlined, enough, followed⟩ := follow reference named names fresh.2
            refine .of_succ inlined enough fun fuel more => ?_
            rw [inlineSchema_reference refers, names]
            dsimp only
            rw [if_pos fresh, followed fuel more, Option.map_some, List.dropLast_concat]
          · refine .of_succ (.object []) 0 fun fuel _ => ?_
            rw [inlineSchema_reference refers, names]
            dsimp only
            rw [if_neg fresh]
      | none =>
        have each : ∀ item ∈ members.map Prod.snd, Returns (inlineSchema root) item stack := by
          intro item among
          obtain ⟨member, own, rfl⟩ := List.mem_map.mp among
          refine ih _ ?_ member.2 rfl
          have smaller := List.sizeOf_lt_of_mem own
          obtain ⟨key, value⟩ := member
          simp only [Value.object.sizeOf_spec, Prod.mk.sizeOf_spec] at smaller ⊢
          omega
        obtain ⟨values, enough, visited⟩ := visitEach_returns each
        refine .of_succ (.object ((members.map Prod.fst).zip values)) enough fun fuel more => ?_
        rw [inlineSchema_object refers, visited fuel more, Option.map_some]
    | array items =>
      have each : ∀ item ∈ items, Returns (inlineSchema root) item stack := by
        intro item among
        refine ih _ ?_ item rfl
        have smaller := List.sizeOf_lt_of_mem among
        simp only [Value.array.sizeOf_spec]
        omega
      obtain ⟨values, enough, visited⟩ := visitEach_returns each
      refine .of_succ (.array values) enough fun fuel more => ?_
      rw [inlineSchema_array, visited fuel more, Option.map_some]
    | null | bool | number | decimal | string =>
      exact .of_succ _ 0 fun _ _ => inlineSchema_scalar rfl rfl

/-- Inlining ends: each reference that is followed leaves less room on the stack. -/
theorem inlineSchema_returns (root schema : Value) (stack : List String) :
    Returns (inlineSchema root) schema stack := by
  obtain ⟨left, room⟩ : ∃ left, maxSchemaDepth ≤ stack.length + left :=
    ⟨maxSchemaDepth, by omega⟩
  induction left generalizing schema stack with
  | zero =>
    refine returns_of_follow (fun _ _ _ short => ?_) schema
    omega
  | succ left ih =>
    refine returns_of_follow (fun reference named _ short => ?_) schema
    apply ih named
    rw [List.length_append, List.length_singleton]
    omega

/-- Inlining a schema ends with the stack as it was and with no reference left, whatever the
references of the document lead to. Where they all name something and nest, each is replaced by
the inlined schema that it names. -/
theorem schema_inlined (document : TextReferences root) (textual : TextReferences schema)
    (stack : List String) :
    ∃ result enough,
      (∀ fuel, enough ≤ fuel → inlineSchema root fuel schema stack = some (result, stack)) ∧
      ReferenceFree result ∧
      ∀ depth, depth < maxSchemaDepth → stack = [] → Nests root depth schema →
        Inlined root schema result := by
  obtain ⟨result, enough, returned⟩ := inlineSchema_returns root schema stack
  have inlined := returned enough le_rfl
  refine ⟨result, enough, returned, inlineSchema_referenceFree document textual inlined, ?_⟩
  intro depth shallow unused nests
  subst unused
  exact inlineSchema_inlined nests (by simpa using shallow.le)
    (fun _ among => absurd among List.not_mem_nil) inlined

theorem textReferences_object
    (own : ∀ reference, lookup "$ref" members = some reference → ∃ text, reference = .string text)
    (each : ∀ member ∈ members, TextReferences member.2) : TextReferences (.object members) := by
  intro inner inside
  cases inside with
  | self => exact own
  | member among deeper => exact each _ among inner deeper

theorem textReferences_string (text : String) : TextReferences (.string text) := by
  intro members inside
  cases inside

/-- A reference to a schema that names another one, and the document of both. -/
def petReference : Value := .object [("$ref", .string "#/components/Pet")]

def petName : Value := .object [("$ref", .string "#/components/Name")]

def petSchema : Value := .object [("type", .string "object"), ("name", petName)]

def petDocument : Value :=
  .object [("components", .object [("Pet", petSchema), ("Name", .string "text")])]

theorem textReferences_reference (reference : String) :
    TextReferences (.object [("$ref", .string reference)]) := by
  apply textReferences_object
  · intro value found
    rw [JsonValues.lookup_cons, if_pos rfl] at found
    cases found
    exact ⟨reference, rfl⟩
  · intro member among
    rw [List.mem_singleton.mp among]
    exact textReferences_string reference

theorem textReferences_pet : TextReferences petDocument := by
  have pet : TextReferences petSchema := by
    apply textReferences_object
    · intro value found
      cases found
    · intro member among
      rcases List.mem_cons.mp among with rfl | later
      · exact textReferences_string "object"
      · rw [List.mem_singleton.mp later]
        exact textReferences_reference "#/components/Name"
  apply textReferences_object
  · intro value found
    cases found
  · intro member among
    rw [List.mem_singleton.mp among]
    apply textReferences_object
    · intro value found
      cases found
    · intro member among
      rcases List.mem_cons.mp among with rfl | later
      · exact pet
      · rw [List.mem_singleton.mp later]
        exact textReferences_string "text"

theorem schema_inlined_pet :
    ∃ result enough,
      (∀ fuel, enough ≤ fuel → inlineSchema petDocument fuel petReference [] = some (result, [])) ∧
        Inlined petDocument petReference result := by
  obtain ⟨result, enough, returned, _, replaced⟩ :=
    schema_inlined textReferences_pet (textReferences_reference "#/components/Pet") []
  have named : Nests petDocument 1 petName := .reference rfl rfl (.scalar rfl rfl)
  have pet : Nests petDocument 1 petSchema := by
    apply Nests.object rfl
    intro member among
    rcases List.mem_cons.mp among with rfl | later
    · exact .scalar rfl rfl
    · rw [List.mem_singleton.mp later]
      exact named
  exact ⟨result, enough, returned, replaced 2 (by decide) rfl (.reference rfl rfl pet)⟩

/-- A reference that leads back to itself becomes an unconstrained value. -/
example :
    inlineSchema (.object [("Pet", .object [("parent", .object [("$ref", .string "#/Pet")])])]) 9
        (.object [("$ref", .string "#/Pet")]) [] =
      some (.object [("parent", .object [])], []) :=
  rfl

end Plug.OpenApi
