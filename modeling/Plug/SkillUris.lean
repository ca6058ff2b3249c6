import Plug.TextSearch

/-!
# The URIs of skills

Two servers may serve a skill of one URI. So a client sees the URI of a skill with the name of its
server in front of the path, and the name is taken off before the server is asked. A URI without
the name is answered by the one server that lists it. A URI of another scheme stays as it is.
-/

namespace Plug.Skills

open Text (splitOnce stripPrefix)

def scheme : List Char := "skill://".toList

def outward (server uri : List Char) : List Char :=
  match stripPrefix scheme uri with
  | some path => scheme ++ (server ++ '/' :: path)
  | none => uri

def inward (server uri : List Char) : List Char :=
  match ((stripPrefix scheme uri).bind (stripPrefix server)).bind (stripPrefix ['/']) with
  | some path => scheme ++ path
  | none => uri

def namedServer (uri : List Char) : Option (List Char) := do
  let rest ← stripPrefix scheme uri
  let (server, _) ← splitOnce ['/'] rest
  if server = [] then none else some server

/-- The first server, if all are that. -/
def single : List (List Char) → Option (List Char)
  | [] => none
  | first :: rest => if rest.all (· = first) then some first else none

/-- The routes are those of a map, in any order. -/
def onlyServer (routes : List (List Char × List Char)) (uri : List Char) : Option (List Char) :=
  (stripPrefix scheme uri).bind fun path =>
    single <| routes.filterMap fun (route, server) =>
      if stripPrefix scheme (inward server route) = some path ∧ route ≠ uri then some server
      else none

def IsSkill (uri : List Char) : Prop := scheme <+: uri

/-- Each skill among the routes has the name of its server. -/
def Named (routes : List (List Char × List Char)) : Prop :=
  ∀ route server, (route, server) ∈ routes → IsSkill route → ∃ uri, route = outward server uri

variable {server other uri route path : List Char} {routes : List (List Char × List Char)}

/-! ### One URI -/

theorem outward_skill (server path : List Char) :
    outward server (scheme ++ path) = scheme ++ (server ++ '/' :: path) := by
  rw [outward, Text.stripPrefix_append]

theorem stripPrefix_eq_none (foreign : ¬ IsSkill uri) : stripPrefix scheme uri = none := by
  cases stripped : stripPrefix scheme uri with
  | none => rfl
  | some path =>
    have whole := Text.stripPrefix_eq_some_iff.mp stripped
    exact absurd (whole ▸ List.prefix_append scheme path) foreign

theorem outward_foreign (foreign : ¬ IsSkill uri) (server : List Char) :
    outward server uri = uri := by
  rw [outward, stripPrefix_eq_none foreign]

theorem inward_foreign (foreign : ¬ IsSkill uri) (server : List Char) :
    inward server uri = uri := by
  rw [inward, stripPrefix_eq_none foreign]
  rfl

theorem inward_named (server path : List Char) :
    inward server (scheme ++ (server ++ '/' :: path)) = scheme ++ path := by
  have slash : stripPrefix ['/'] ('/' :: path) = some path := Text.stripPrefix_append ['/'] path
  rw [inward, Text.stripPrefix_append, Option.bind_some, Text.stripPrefix_append, Option.bind_some,
    slash]

theorem inward_outward (server uri : List Char) : inward server (outward server uri) = uri := by
  by_cases skill : IsSkill uri
  · obtain ⟨path, rfl⟩ := skill
    rw [outward_skill, inward_named]
  · rw [outward_foreign skill, inward_foreign skill]

theorem outward_inj (plain : '/' ∉ server) (apart : '/' ∉ other) {path next : List Char}
    (same : outward server (scheme ++ path) = outward other (scheme ++ next)) :
    server = other ∧ path = next := by
  rw [outward_skill, outward_skill, List.append_cancel_left_eq] at same
  have split := Text.splitOnce_character plain path
  rw [same, Text.splitOnce_character apart next, Option.some.injEq, Prod.mk.injEq] at split
  exact ⟨split.1.symm, split.2.symm⟩

theorem namedServer_outward (named : server ≠ []) (plain : '/' ∉ server) (path : List Char) :
    namedServer (outward server (scheme ++ path)) = some server := by
  have split := Text.splitOnce_character plain path
  rw [outward_skill, namedServer, Text.stripPrefix_append]
  dsimp only [Option.bind_eq_bind, Option.bind_some]
  rw [split]
  exact if_neg named

/-! ### Routes -/

theorem single_eq_some_iff {servers : List (List Char)} :
    single servers = some server ↔ server ∈ servers ∧ ∀ other ∈ servers, other = server := by
  cases servers with
  | nil => exact iff_of_false nofun fun both => absurd both.1 List.not_mem_nil
  | cons first rest =>
    rw [single]
    split
    · rename_i alike
      have same : ∀ other ∈ first :: rest, other = first := by
        intro other member
        rcases List.mem_cons.mp member with rfl | behind
        · rfl
        · exact of_decide_eq_true (List.all_eq_true.mp alike other behind)
      constructor
      · intro found
        cases found
        exact ⟨List.mem_cons_self, same⟩
      · rintro ⟨member, _⟩
        rw [same server member]
    · rename_i apart
      refine iff_of_false nofun ?_
      rintro ⟨_, same⟩
      apply apart
      rw [List.all_eq_true]
      intro other member
      rw [decide_eq_true_eq, same other (List.mem_cons_of_mem first member),
        same first List.mem_cons_self]

/-- A server answers if it lists the skill under some other URI and no other server does. -/
theorem onlyServer_eq_some_iff : onlyServer routes uri = some server ↔ IsSkill uri ∧
    (∃ route, (route, server) ∈ routes ∧ inward server route = uri ∧ route ≠ uri) ∧
    ∀ route other, (route, other) ∈ routes → inward other route = uri → route ≠ uri →
      other = server := by
  by_cases skill : IsSkill uri
  · obtain ⟨path, rfl⟩ := skill
    have listed : ∀ other, (other ∈ routes.filterMap fun (route, server) =>
        if stripPrefix scheme (inward server route) = some path ∧ route ≠ scheme ++ path then
          some server
        else none) ↔ ∃ route, (route, other) ∈ routes ∧ inward other route = scheme ++ path ∧
          route ≠ scheme ++ path := by
      intro other
      rw [List.mem_filterMap]
      constructor
      · rintro ⟨⟨route, owner⟩, member, kept⟩
        dsimp only at kept
        split at kept
        · rename_i known
          rw [Text.stripPrefix_eq_some_iff] at known
          cases kept
          exact ⟨route, member, known⟩
        · cases kept
      · rintro ⟨route, member, known⟩
        refine ⟨(route, other), member, if_pos ?_⟩
        rw [Text.stripPrefix_eq_some_iff]
        exact known
    rw [onlyServer, Text.stripPrefix_append, Option.bind_some, single_eq_some_iff, listed]
    constructor
    · rintro ⟨lists, alone⟩
      refine ⟨List.prefix_append scheme path, lists, fun route other member known apart => ?_⟩
      exact alone other ((listed other).mpr ⟨route, member, known, apart⟩)
    · rintro ⟨_, lists, alone⟩
      refine ⟨lists, fun other member => ?_⟩
      obtain ⟨route, among, known, apart⟩ := (listed other).mp member
      exact alone route other among known apart
  · refine iff_of_false ?_ fun all => skill all.1
    rw [onlyServer, stripPrefix_eq_none skill]
    exact nofun

/-- In routes with names no skill is known to its server by the URI of its route. -/
theorem inward_ne_of_named (named : Named routes) (member : (route, server) ∈ routes)
    (skill : IsSkill uri) (known : inward server route = uri) : route ≠ uri := by
  rintro rfl
  obtain ⟨listed, rfl⟩ := named route server member skill
  rw [inward_outward] at known
  by_cases own : IsSkill listed
  · obtain ⟨path, rfl⟩ := own
    have size := congrArg List.length known
    rw [outward_skill, List.length_append, List.length_append, List.length_append,
      List.length_cons] at size
    omega
  · rw [known] at own
    exact own skill

end Plug.Skills
