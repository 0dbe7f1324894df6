import Mathlib
import ModuleGraph.Proofs.Json.Ordered
import ModuleGraph.Proofs.Package.Outline
import ModuleGraph.Proofs.Package.Reordering

/-!
# The fields of a manifest

What a manifest says is told by five fields of its object, wherever they stand among the others
(`Manifest.Tells`), and below `exports` and `imports` by every key and item in its place. The fields
may also be taken out of the object one after the other (`Manifest.takeFields`), each time with the
last member moved into the hole, and the targets be put together branch by branch. Taking a field
out disturbs the order of the others, but of no object below them, so the manifest is the same.
-/

set_option autoImplicit false

namespace ModuleGraph

/-! ## Targets put together branch by branch -/

namespace Target

mutual

/-- The target a value declares, with the branches of an object put into an ordered map. -/
def collect : Json → Target
  | .string text => .literal text
  | .object members => .conditional (Json.gather (collectMembers members))
  | .array items => .list (collectItems items)
  | .null => .null
  | .bool value => .invalid (if value then "true" else "false")
  | .number value => .invalid value.text

/-- The targets of an array. -/
def collectItems : List Json → List Target
  | [] => []
  | item :: items => collect item :: collectItems items

/-- The targets of an object under their keys. -/
def collectMembers : List (String × Json) → TargetMap
  | [] => []
  | (key, value) :: members => (key, collect value) :: collectMembers members

end

theorem collectItems_eq {items : List Json} (h : ∀ item ∈ items, collect item = ofJson item) :
    collectItems items = ofItems items := by
  induction items with
  | nil => rfl
  | cons item items ih =>
      rw [collectItems, ofItems, h item List.mem_cons_self,
        ih fun other hother => h other (List.mem_cons_of_mem _ hother)]

theorem collectMembers_eq {members : List (String × Json)}
    (h : ∀ m ∈ members, collect m.2 = ofJson m.2) : collectMembers members = ofMembers members := by
  induction members with
  | nil => rfl
  | cons m members ih =>
      obtain ⟨key, value⟩ := m
      have hvalue : collect value = ofJson value := h (key, value) List.mem_cons_self
      rw [collectMembers, ofMembers, hvalue,
        ih fun other hother => h other (List.mem_cons_of_mem _ hother)]

/-- Where no object holds a key twice, no branch is lost. -/
theorem collect_eq_ofJson {value : Json} (h : value.Distinct) : collect value = ofJson value := by
  induction h with
  | array _ ih => rw [collect, ofJson, collectItems_eq ih]
  | object hkeys _ ih =>
      rw [collect, ofJson, collectMembers_eq ih, Json.gather_of_nodup]
      rwa [Manifest.keys_ofMembers]
  | _ => simp only [collect, ofJson]

end Target

theorem Json.string?_eq_some_iff {value : Json} {text : String} :
    value.string? = some text ↔ value = .string text := by
  cases value <;> simp [Json.string?]

theorem PackageType.ofName?_eq_some_iff {text : String} {type : PackageType} :
    ofName? text = some type ↔
      (text = "module" ∧ type = .module) ∨ (text = "commonjs" ∧ type = .commonJs) := by
  unfold ofName?
  split
  · simp [eq_comm]
  · simp [eq_comm]
  · next hmodule hcommonJs =>
      refine iff_of_false nofun ?_
      rintro (⟨rfl, -⟩ | ⟨rfl, -⟩)
      · exact hmodule rfl
      · exact hcommonJs rfl

namespace Manifest

variable {path : FilePath} {members members' : List (String × Json)}

/-! ## Taking the fields out -/

/-- What `exports` offers, put together branch by branch. -/
def collectExports? : Json → Option Target
  | .null => none
  | value => some (Target.collect value)

/-- What `imports` maps, put together branch by branch. -/
def collectImports? : Json → Option TargetMap
  | .object members => some (Json.gather (Target.collectMembers members))
  | _ => none

/-- The manifest that is read by taking the fields out of an object one after the other. Only the
type is looked up and stays where it is. -/
def takeFields (path : FilePath) (members : List (String × Json)) : Manifest :=
  let name := Json.takeOut "name" members
  let main := Json.takeOut "main" name.2
  let exports := Json.takeOut "exports" main.2
  let imports := Json.takeOut "imports" exports.2
  { path
    name := name.1.bind Json.string?
    type := ((main.2.lookup "type").bind Json.string?).bind PackageType.ofName?
    main := main.1.bind Json.string?
    exports := exports.1.bind collectExports?
    imports := imports.1.bind collectImports? }

theorem collectExports?_eq {value : Json} (h : value.Distinct) :
    collectExports? value = exportsOf? value := by
  have hvalue := Target.collect_eq_ofJson h
  cases value with
  | null => rfl
  | _ => exact congrArg some hvalue

theorem collectImports?_eq {value : Json} (h : value.Distinct) :
    collectImports? value = importsOf? value := by
  have hvalue := Target.collect_eq_ofJson h
  cases value with
  | object inner =>
      rw [Target.collect, Target.ofJson, Target.conditional.injEq] at hvalue
      exact congrArg some hvalue
  | _ => rfl

/-- Two ways to read a value that agree on values without repeated keys agree on the members of
one. -/
theorem bind_lookup_congr {β : Type} (h : Json.Distinct (.object members)) (key : String)
    {read read' : Json → Option β}
    (hread : ∀ {value : Json}, value.Distinct → read value = read' value) :
    (members.lookup key).bind read = (members.lookup key).bind read' := by
  cases hfield : members.lookup key with
  | none => rfl
  | some value => exact hread (distinct_of_lookup h hfield)

/-- Taking the fields out gives the manifest that the fields describe where they stand. -/
theorem takeFields_eq_ofMembers (h : Json.Distinct (.object members)) :
    takeFields path members = ofMembers path members := by
  have hkeys := h.nodup_keys
  have hname := Json.nodup_takeOut "name" hkeys
  have hmain := Json.nodup_takeOut "main" hname
  -- a field that is still to come keeps its value at each step
  unfold takeFields ofMembers
  simp only [Json.takeOut_fst]
  congr 1
  · rw [Json.lookup_takeOut_of_ne hname (by decide), Json.lookup_takeOut_of_ne hkeys (by decide)]
  · rw [Json.lookup_takeOut_of_ne hkeys (by decide)]
  · rw [Json.lookup_takeOut_of_ne hname (by decide), Json.lookup_takeOut_of_ne hkeys (by decide),
      bind_lookup_congr h "exports" collectExports?_eq]
  · rw [Json.lookup_takeOut_of_ne hmain (by decide), Json.lookup_takeOut_of_ne hname (by decide),
      Json.lookup_takeOut_of_ne hkeys (by decide), bind_lookup_congr h "imports" collectImports?_eq]

/-! ## What the fields tell -/

/-- The fields that take part in resolution. -/
def fieldNames : List String := ["name", "type", "main", "exports", "imports"]

/-- A manifest is told by the members of an object: each of its fields is the member of that name
if that is of the field's kind, and none otherwise. A target mirrors its value, and a null offers
no target. -/
structure Tells (m : Manifest) (members : List (String × Json)) : Prop where
  name : ∀ text, m.name = some text ↔ ("name", .string text) ∈ members
  main : ∀ text, m.main = some text ↔ ("main", .string text) ∈ members
  module : m.type = some .module ↔ ("type", .string "module") ∈ members
  commonJs : m.type = some .commonJs ↔ ("type", .string "commonjs") ∈ members
  exports : ∀ target, m.exports = some target ↔
    ∃ value, ("exports", value) ∈ members ∧ value ≠ .null ∧ target.Mirrors value
  imports : ∀ map, m.imports = some map ↔
    ∃ inner, ("imports", .object inner) ∈ members ∧
      (Target.conditional map).Mirrors (.object inner)

/-- One manifest is told by the members of an object. -/
theorem Tells.unique {m n : Manifest} (hm : m.Tells members) (hn : n.Tells members)
    (hpath : m.path = n.path) : m = n := by
  have hname : m.name = n.name := Option.ext fun text => (hm.name text).trans (hn.name text).symm
  have hmain : m.main = n.main := Option.ext fun text => (hm.main text).trans (hn.main text).symm
  have htype : m.type = n.type := by
    apply Option.ext
    rintro (_ | _)
    · exact hm.module.trans hn.module.symm
    · exact hm.commonJs.trans hn.commonJs.symm
  have hexports : m.exports = n.exports :=
    Option.ext fun target => (hm.exports target).trans (hn.exports target).symm
  have himports : m.imports = n.imports :=
    Option.ext fun map => (hm.imports map).trans (hn.imports map).symm
  obtain ⟨⟩ := m
  obtain ⟨⟩ := n
  dsimp only at hpath hname hmain htype hexports himports
  rw [hpath, hname, hmain, htype, hexports, himports]

/-- Only the members under the five names matter. -/
theorem Tells.of_mem_iff {m : Manifest} (hm : m.Tells members)
    (h : ∀ key ∈ fieldNames, ∀ value, (key, value) ∈ members ↔ (key, value) ∈ members') :
    m.Tells members' where
  name text := (hm.name text).trans (h "name" (by decide) _)
  main text := (hm.main text).trans (h "main" (by decide) _)
  module := hm.module.trans (h "type" (by decide) _)
  commonJs := hm.commonJs.trans (h "type" (by decide) _)
  exports target := (hm.exports target).trans <|
    exists_congr fun value => and_congr_left' (h "exports" (by decide) value)
  imports map := (hm.imports map).trans <|
    exists_congr fun inner => and_congr_left' (h "imports" (by decide) _)

/-- A field that holds a text is the member with that text. -/
theorem lookup_string_iff (hkeys : (members.map Prod.fst).Nodup) {key text : String} :
    (members.lookup key).bind Json.string? = some text ↔ (key, .string text) ∈ members := by
  rw [Option.bind_eq_some_iff]
  simp only [Json.string?_eq_some_iff, exists_eq_right, Pattern.lookup_eq_some_iff_mem hkeys]

theorem exportsOf?_eq_some_iff {value : Json} {target : Target} :
    exportsOf? value = some target ↔ value ≠ .null ∧ target.Mirrors value := by
  rw [Target.mirrors_iff]
  cases value <;> simp [exportsOf?, eq_comm]

theorem importsOf?_eq_some_iff {value : Json} {map : TargetMap} :
    importsOf? value = some map ↔
      ∃ inner, value = .object inner ∧ (Target.conditional map).Mirrors (.object inner) := by
  simp only [Target.mirrors_iff, Target.ofJson, Target.conditional.injEq]
  cases value <;> simp [importsOf?, eq_comm]

theorem type_eq_some_iff (hkeys : (members.map Prod.fst).Nodup) {type : PackageType} :
    (ofMembers path members).type = some type ↔
      ∃ text, ("type", .string text) ∈ members ∧ PackageType.ofName? text = some type := by
  rw [ofMembers, Option.bind_eq_some_iff]
  simp only [lookup_string_iff hkeys]

/-- An object tells the manifest that is read from it. -/
theorem tells_ofMembers (path : FilePath) (hkeys : (members.map Prod.fst).Nodup) :
    (ofMembers path members).Tells members where
  name _ := lookup_string_iff hkeys
  main _ := lookup_string_iff hkeys
  module := by simp [type_eq_some_iff hkeys, PackageType.ofName?_eq_some_iff]
  commonJs := by simp [type_eq_some_iff hkeys, PackageType.ofName?_eq_some_iff]
  exports target := by
    rw [ofMembers, Option.bind_eq_some_iff]
    simp only [Pattern.lookup_eq_some_iff_mem hkeys, exportsOf?_eq_some_iff]
  imports map := by
    rw [ofMembers, Option.bind_eq_some_iff]
    simp only [Pattern.lookup_eq_some_iff_mem hkeys, importsOf?_eq_some_iff]
    constructor
    · rintro ⟨_, hmem, inner, rfl, hmirrors⟩
      exact ⟨inner, hmem, hmirrors⟩
    · rintro ⟨inner, hmem, hmirrors⟩
      exact ⟨_, hmem, inner, rfl, hmirrors⟩

/-! ## Reading a text -/

/-- The members of an object under the five names. -/
def relevant (members : List (String × Json)) : List (String × Json) :=
  members.filter fun m => fieldNames.contains m.1

theorem mem_relevant {key : String} (hkey : key ∈ fieldNames) {value : Json} :
    (key, value) ∈ relevant members ↔ (key, value) ∈ members := by
  rw [relevant, List.mem_filter, List.contains_iff_mem]
  exact and_iff_left hkey

theorem parse_of_object (path : FilePath) {source : String}
    (h : Json.parse? depthLimit source = some (.object members)) :
    parse path source = .ok (ofMembers path members) := by
  rw [parse, h]

/-- What is read from an object is the one manifest that its members tell. -/
theorem parse_iff_tells {source : String}
    (h : Json.parse? depthLimit source = some (.object members)) {m : Manifest} :
    parse path source = .ok m ↔ m.path = path ∧ m.Tells members := by
  have htells := tells_ofMembers path (Json.distinct_of_parse? h).nodup_keys
  rw [parse_of_object path h, Except.ok.injEq]
  constructor
  · rintro rfl
    exact ⟨rfl, htells⟩
  · rintro ⟨hpath, hm⟩
    exact htells.unique hm hpath.symm

/-- Objects with the same relevant members, in whatever order, are read as the same manifest. -/
theorem parse_eq_of_relevant_perm {source source' : String}
    (h : Json.parse? depthLimit source = some (.object members))
    (h' : Json.parse? depthLimit source' = some (.object members'))
    (hrelevant : (relevant members).Perm (relevant members')) :
    parse path source' = parse path source := by
  obtain ⟨hpath, htells⟩ := (parse_iff_tells h).1 (parse_of_object path h)
  rw [parse_of_object path h, parse_iff_tells h']
  refine ⟨hpath, htells.of_mem_iff fun key hkey value => ?_⟩
  rw [← mem_relevant hkey, hrelevant.mem_iff, mem_relevant hkey]

/-- Reading a manifest depends on its five fields only and keeps the order of declaration below
them. A text that is a JSON object stands for the ordered map its written members add up to, in
which a repeated key keeps its first place and its last value. The manifest is put together from
the fields that are taken out of this map, and it is the one manifest that is told by the members of
those names, with targets that mirror the values at every depth. Another object is read as the same
manifest if it has the same members under the five names, in any order and whatever else it has. -/
theorem parse_tells_five_fields (path : FilePath) {source : String}
    {members : List (String × Json)}
    (hread : Json.parse? depthLimit source = some (.object members)) :
    (∃ written, Json.written? depthLimit source = some written ∧
      members.map Prod.fst = (written.map Prod.fst).eraseDups ∧
      ∀ key, members.lookup key = written.reverse.lookup key) ∧
    parse path source = .ok (takeFields path members) ∧
    (∀ m, parse path source = .ok m ↔ m.path = path ∧ m.Tells members) ∧
    ∀ source' members', Json.parse? depthLimit source' = some (.object members') →
      (relevant members).Perm (relevant members') →
      parse path source' = parse path source := by
  have hdistinct := Json.distinct_of_parse? hread
  refine ⟨?_, ?_, fun m => parse_iff_tells hread, fun source' members' hread' hrelevant =>
    parse_eq_of_relevant_perm hread hread' hrelevant⟩
  · obtain ⟨written, hwritten, rfl⟩ := Json.exists_written_of_parse? hread
    exact ⟨written, hwritten, Json.keys_gather written, Json.lookup_gather written⟩
  · rw [takeFields_eq_ofMembers hdistinct, parse_of_object path hread]

/-- Two texts that tell the same manifest. The one gives its name twice, the other has the fields in
another order and says something of its own. -/
theorem parse_tells_five_fields_of_repeated_name :
    let path : FilePath := .ofString "/p/package.json"
    let source :=
      "\x7b\"name\":\"a\",\"exports\":\x7b\"b\":[null,true],\"a\":\"./a\"\x7d,\"name\":\"c\"\x7d"
    let source' :=
      "\x7b\"exports\":\x7b\"b\":[null,true],\"a\":\"./a\"\x7d,\"x\":null,\"name\":\"c\"\x7d"
    let exports : Json := .object [("b", .array [.null, .bool true]), ("a", .string "./a")]
    Json.parse? depthLimit source = some (.object [("name", .string "c"), ("exports", exports)]) ∧
    Json.parse? depthLimit source' = some (.object
      [("exports", exports), ("x", .null), ("name", .string "c")]) ∧
    ∃ m, parse path source = .ok m ∧ parse path source' = .ok m ∧ m.name = some "c" ∧
      m.exports =
        some (.conditional [("b", .list [.null, .invalid "true"]), ("a", .literal "./a")]) := by
  intro path source source' exports
  have hread : Json.parse? depthLimit source =
      some (.object [("name", .string "c"), ("exports", exports)]) := by cbv
  have hread' : Json.parse? depthLimit source' = some (.object
      [("exports", exports), ("x", .null), ("name", .string "c")]) := by cbv
  obtain ⟨-, hparse, -, hsame⟩ := parse_tells_five_fields path hread
  refine ⟨hread, hread', _, hparse, ?_, rfl, rfl⟩
  rw [hsame source' _ hread' (.swap _ _ _), hparse]

end Manifest

end ModuleGraph
