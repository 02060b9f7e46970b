-- What loading keeps of a ruleset: the entries of its text, each read on its own, and of entries with one name only
-- the last.
import CatalogGate.Proofs.Json.Members
import CatalogGate.Proofs.List.Traversal
import CatalogGate.Ruleset.Basic
import Mathlib.Data.List.Induction
import Mathlib.Data.List.Perm.Subperm

namespace CatalogGate

/-! ## Entries with one name -/

namespace Json

/-- Of entries with one name the value of the last, in the place of the first. -/
def merge (entries : List (String × Json)) : List (String × Json) :=
  entries.foldl (fun members entry => put entry.1 entry.2 members) []

theorem merge_concat (entries : List (String × Json)) (entry : String × Json) :
    merge (entries ++ [entry]) = put entry.1 entry.2 (merge entries) := by
  rw [merge, List.foldl_append]
  rfl

/-- Each name stays, once and where it is written first. -/
theorem names_merge (entries : List (String × Json)) : names (merge entries) = (names entries).eraseDups := by
  induction entries using List.reverseRecOn with
  | nil => rfl
  | append_singleton entries entry ih =>
    rw [merge_concat, names_append, List.eraseDups_append, ← ih]
    by_cases h : entry.1 ∈ names entries
    · have hmem : entry.1 ∈ names (merge entries) := by rwa [ih, List.mem_eraseDups]
      have hrest : (names [entry]).removeAll (names entries) = [] :=
        List.filter_eq_nil_iff.mpr (by simpa [names] using h)
      rw [names_put_of_mem entry.2 hmem, hrest, List.eraseDups_nil, List.append_nil]
    · have hfresh : entry.1 ∉ names (merge entries) := by rwa [ih, List.mem_eraseDups]
      have hrest : (names [entry]).removeAll (names entries) = [entry.1] :=
        List.filter_eq_self.mpr (by simpa [names] using h)
      rw [put_of_not_mem entry.2 hfresh, names_append, hrest]
      rfl

theorem nodup_merge (entries : List (String × Json)) : (names (merge entries)).Nodup := by
  induction entries using List.reverseRecOn with
  | nil => exact List.nodup_nil
  | append_singleton entries entry ih =>
    rw [merge_concat]
    exact nodup_put entry.1 entry.2 ih

/-- Under a name stands the value that is written last. -/
theorem lookup_merge (name : String) (entries : List (String × Json)) :
    lookup name (merge entries) = lookup name entries.reverse := by
  induction entries using List.reverseRecOn with
  | nil => rfl
  | append_singleton entries entry ih =>
    rw [merge_concat, List.reverse_concat]
    by_cases h : entry.1 = name
    · rw [← h, lookup_put_self, lookup, if_pos rfl]
    · rw [lookup_put_ne _ _ h, lookup, if_neg h, ih]

theorem merge_of_nodup {entries : List (String × Json)} (h : (names entries).Nodup) : merge entries = entries := by
  induction entries using List.reverseRecOn with
  | nil => rfl
  | append_singleton entries entry ih =>
    rw [names_append] at h
    obtain ⟨hentries, -, hfresh⟩ := List.nodup_append.mp h
    have hnew : entry.1 ∉ names entries := fun hmem => hfresh _ hmem _ List.mem_cons_self rfl
    rw [merge_concat, ih hentries, put_of_not_mem entry.2 hnew]

theorem length_merge_eq_iff (entries : List (String × Json)) :
    (merge entries).length = entries.length ↔ (names entries).Nodup := by
  constructor
  · intro hlength
    have hsub : names (merge entries) ⊆ names entries := fun name hname => by
      rwa [names_merge, List.mem_eraseDups] at hname
    have hle : (names entries).length ≤ (names (merge entries)).length := by
      simp only [names, List.length_map, hlength, Nat.le_refl]
    have hperm := (List.Nodup.subperm (nodup_merge entries) hsub).perm_of_length_le hle
    exact hperm.nodup (nodup_merge entries)
  · intro h
    rw [merge_of_nodup h]

end Json

/-! ## What a text writes -/

namespace Yaml.Content

/-- The name of an entry and what is written under it. -/
def readEntry (c : Content) (entry : Tree × Tree) : StateT Nat (Except Error) (String × Json) := do
  let (name, _) ← c.readKey rulesPath "a string" entry.1
  return (name, ← c.readJson (depthLimit - 2) (rulesPath.entry entry.1) entry.2)

/-- All entries of a mapping in the order of the text. -/
def readEntries (c : Content) (tree : Tree) : StateT Nat (Except Error) (List (String × Json)) := do
  let (entries, _) ← c.readMapping rulesPath "a map" tree
  entries.mapM c.readEntry

/-- The entries under the only field, if this is the one for rules. Where there is no field there are none. -/
def readFields? (c : Content) : List (Tree × Tree) → StateT Nat (Except Error) (Option (List (String × Json)))
  | [] => return some []
  | [(key, tree)] => do
    let (name, _) ← c.readKey Path.root "field identifier" key
    if name = rulesKey then some <$> c.readEntries tree else return none
  | _ => return none

def readWritten (c : Content) : StateT Nat (Except Error) (Option (List (String × Json))) := do
  let (fields, _) ← c.readMapping Path.root "struct RawRuleset" c.root
  c.readFields? fields

/-- What a text writes for rules: the names and values of all entries, each read as if no other had its name. -/
def Writes (c : Content) (entries : List (String × Json)) : Prop :=
  c.ending = none ∧ ∃ jumps, c.readWritten.run 0 = .ok (some entries, jumps)

theorem readRules_eq (c : Content) (tree : Tree) : c.readRules tree = Json.merge <$> c.readEntries tree := by
  have hbody : (fun (found : List (String × Json)) (entry : Tree × Tree) => do
      let (name, _) ← c.readKey rulesPath "a string" entry.1
      return Json.put name (← c.readJson (depthLimit - 2) (rulesPath.entry entry.1) entry.2) found) =
      fun found entry => (fun read => Json.put read.1 read.2 found) <$> c.readEntry entry := by
    funext found entry
    simp only [readEntry, map_eq_pure_bind, bind_assoc, pure_bind]
  simp only [readRules, readEntries, map_bind]
  congr 1
  funext read
  exact (congrArg (read.1.foldlM · []) hbody).trans (foldlM_map_eq _ _ _ _)

/-- One turn of the reading of the fields. -/
def readField (c : Content) (mark : Mark) (found : Option (List (String × Json))) (field : Tree × Tree) :
    StateT Nat (Except Error) (Option (List (String × Json))) := do
  let (name, keyMark) ← c.readKey Path.root "field identifier" field.1
  if name ≠ rulesKey then
    throw (.value (.unknownField name s!"\x60{rulesKey}\x60") Path.root.text keyMark)
  if found.isSome then throw (.value (.repeatedField name) Path.root.text mark)
  return some (← c.readRules field.2)

theorem rules_eq (c : Content) : c.rules = (do
    let ((fields, mark), jumps) ← (c.readMapping Path.root "struct RawRuleset" c.root).run 0
    let (found, _) ← (fields.foldlM (c.readField mark) none).run jumps
    match c.ending with
    | some e => throw e
    | none => return found.getD []) := by
  unfold rules
  simp only [StateT.run_bind, bind_assoc, StateT.run_pure, pure_bind]
  rfl

/-- Only a first field is read, and only under its name. -/
theorem readField_eq_ok_iff {c : Content} {mark : Mark} {found next : Option (List (String × Json))}
    {field : Tree × Tree} {jumps last : Nat} :
    (c.readField mark found field).run jumps = .ok (next, last) ↔
      found = none ∧ ∃ entries, (c.readFields? [field]).run jumps = .ok (some entries, last) ∧
        next = some (Json.merge entries) := by
  simp only [readField, readFields?, StateT.run_bind, bind_eq_ok_iff, readRules_eq]
  constructor
  · rintro ⟨⟨⟨name, keyMark⟩, jumps'⟩, hkey, h⟩
    split at h
    · exact nomatch h
    split at h
    · exact nomatch h
    rename_i hname hfound
    have hrules : name = rulesKey := by simpa using hname
    simp only [StateT.run_bind, StateT.run_map, bind_eq_ok_iff] at h
    obtain ⟨_, hmerged, heq⟩ := h
    obtain ⟨⟨entries, _⟩, hentries, rfl⟩ := map_eq_ok_iff.mp hmerged
    obtain ⟨rfl, rfl⟩ := Prod.mk.inj (Except.ok.inj heq)
    refine ⟨by simpa using hfound, entries, ⟨_, hkey, ?_⟩, rfl⟩
    simp [hrules, hentries]
  · rintro ⟨rfl, entries, ⟨⟨⟨name, keyMark⟩, jumps'⟩, hkey, h⟩, rfl⟩
    refine ⟨_, hkey, ?_⟩
    by_cases hrules : name = rulesKey
    · simp only [hrules, if_true, StateT.run_map] at h
      obtain ⟨⟨_, _⟩, hentries, heq⟩ := map_eq_ok_iff.mp h
      obtain ⟨hsome, rfl⟩ := Prod.mk.inj heq
      obtain rfl := Option.some.inj hsome
      simp [hrules, hentries]
    · simp only [if_neg hrules] at h
      exact nomatch h

/-- Fields are read if there is none, or one that is. -/
theorem readFields_eq_ok_iff {c : Content} {mark : Mark} {fields : List (Tree × Tree)} {jumps last : Nat}
    {members : List (String × Json)} :
    (∃ found, (fields.foldlM (c.readField mark) none).run jumps = .ok (found, last) ∧ found.getD [] = members) ↔
      ∃ entries, (c.readFields? fields).run jumps = .ok (some entries, last) ∧ Json.merge entries = members := by
  match fields with
  | [] =>
    constructor
    · rintro ⟨found, hread, rfl⟩
      obtain ⟨rfl, rfl⟩ := Prod.mk.inj (Except.ok.inj hread)
      exact ⟨[], rfl, rfl⟩
    · rintro ⟨entries, hread, rfl⟩
      obtain ⟨hentries, rfl⟩ := Prod.mk.inj (Except.ok.inj hread)
      obtain rfl := Option.some.inj hentries
      exact ⟨none, rfl, rfl⟩
  | [field] => simp [readField_eq_ok_iff]
  | first :: second :: rest =>
    -- The first field leaves something behind, with which no second one is read.
    constructor
    · rintro ⟨found, hread, -⟩
      simp [bind_eq_ok_iff, readField_eq_ok_iff] at hread
    · rintro ⟨entries, hread, -⟩
      exact nomatch hread

/-- The rules of a text are the entries that it writes, without those that a later one replaces. -/
theorem rules_eq_ok_iff {c : Content} {members : List (String × Json)} :
    c.rules = .ok members ↔ ∃ entries, c.Writes entries ∧ Json.merge entries = members := by
  rw [rules_eq]
  simp only [Writes, readWritten, StateT.run_bind, bind_eq_ok_iff]
  constructor
  · rintro ⟨⟨⟨fields, mark⟩, jumps⟩, hroot, ⟨found, last⟩, hfields, hending⟩
    split at hending
    · exact nomatch hending
    · rename_i hnone
      obtain ⟨entries, hentries, hmerge⟩ := readFields_eq_ok_iff.mp ⟨found, hfields, Except.ok.inj hending⟩
      exact ⟨entries, ⟨hnone, last, _, hroot, hentries⟩, hmerge⟩
  · rintro ⟨entries, ⟨hnone, last, ⟨⟨fields, mark⟩, jumps⟩, hroot, hentries⟩, hmerge⟩
    obtain ⟨found, hfields, hfound⟩ := readFields_eq_ok_iff.mpr ⟨entries, hentries, hmerge⟩
    refine ⟨_, hroot, (found, last), hfields, ?_⟩
    simp only [hnone, hfound]
    rfl

/-- A text writes its entries in one way. -/
theorem Writes.unique {c : Content} {a b : List (String × Json)} (ha : c.Writes a) (hb : c.Writes b) : a = b := by
  obtain ⟨-, jumps, ha⟩ := ha
  obtain ⟨-, _, hb⟩ := hb
  rw [ha] at hb
  exact Option.some.inj (Prod.mk.inj (Except.ok.inj hb)).1

end Yaml.Content

/-! ## What is loaded -/

theorem Rule.name_of_read {name : String} {value : Json} {rule : Rule} (h : Rule.read name value = .ok rule) :
    rule.name = name := by
  unfold Rule.read at h
  simp only [bind_eq_ok_iff] at h
  obtain ⟨record, _, importance, _, formats, _, given, _, h⟩ := h
  split at h
  · exact nomatch h
  obtain ⟨checks, _, h⟩ := bind_eq_ok_iff.mp h
  split at h
  · exact nomatch h
  rw [← Except.ok.inj h]

namespace Ruleset

/-- Each entry, read on its own under its name, is the rule at its place. -/
def Compiled (entries : List (String × Json)) (rules : List Rule) : Prop :=
  List.Forall₂ (fun entry rule => Rule.read entry.1 entry.2 = .ok rule) entries rules

theorem names_of_compiled {entries : List (String × Json)} {rules : List Rule} (h : Compiled entries rules) :
    rules.map Rule.name = Json.names entries := by
  induction h with
  | nil => rfl
  | cons hread _ ih =>
    rw [List.map_cons, ih, Rule.name_of_read hread]
    rfl

theorem exists_entry_of_compiled {entries : List (String × Json)} {rules : List Rule} (h : Compiled entries rules)
    {rule : Rule} (hrule : rule ∈ rules) :
    ∃ value, (rule.name, value) ∈ entries ∧ Rule.read rule.name value = .ok rule := by
  induction h with
  | nil => exact absurd hrule List.not_mem_nil
  | @cons entry first entries rules hread _ ih =>
    rcases List.mem_cons.mp hrule with rfl | hrest
    · have hname : rule.name = entry.1 := Rule.name_of_read hread
      rw [hname]
      exact ⟨entry.2, List.mem_cons_self, hread⟩
    · obtain ⟨value, hmem, hvalue⟩ := ih hrest
      exact ⟨value, List.mem_cons_of_mem _ hmem, hvalue⟩

theorem ofText_eq_ok_iff {text : List Char} {r : Ruleset} :
    ofText text = .ok r ↔ ∃ entries, (Yaml.Content.ofText text).Writes entries ∧ r.source = none ∧
      Compiled (Json.merge entries) r.rules := by
  simp only [ofText, bind_eq_ok_iff, mapError_eq_ok_iff, mapM_eq_ok_iff, Yaml.Content.rules_eq_ok_iff]
  constructor
  · rintro ⟨_, ⟨entries, hwrites, rfl⟩, rules, hrules, heq⟩
    obtain rfl := Except.ok.inj heq
    exact ⟨entries, hwrites, rfl, hrules⟩
  · rintro ⟨entries, hwrites, hsource, hrules⟩
    refine ⟨_, ⟨entries, hwrites, rfl⟩, r.rules, hrules, ?_⟩
    rw [← hsource]
    rfl

/-- What loading makes of the entries that a text writes. If their names are different, the ruleset has a rule for
every entry, and there is none if one cannot be read. Otherwise an entry counts only if no later one has its name:
the rules are fewer than the entries, and nothing is said of an entry that is replaced. -/
theorem ofText_keeps_iff (text : List Char) :
    (∀ r, ofText text = .ok r ↔ ∃ entries, (Yaml.Content.ofText text).Writes entries ∧ r.source = none ∧
      Compiled (Json.merge entries) r.rules) ∧
    ∀ entries, (Yaml.Content.ofText text).Writes entries →
      ((Json.names entries).Nodup → ∀ r, ofText text = .ok r ↔ r.source = none ∧ Compiled entries r.rules) ∧
      ∀ r, ofText text = .ok r →
        r.rules.map Rule.name = (Json.names entries).eraseDups ∧
        (∀ rule ∈ r.rules, ∃ value, Json.lookup rule.name entries.reverse = some value ∧
          Rule.read rule.name value = .ok rule) ∧
        (r.rules.length = entries.length ↔ (Json.names entries).Nodup) := by
  refine ⟨fun r => ofText_eq_ok_iff, fun entries h => ?_⟩
  have hloads (r : Ruleset) : ofText text = .ok r ↔ r.source = none ∧ Compiled (Json.merge entries) r.rules := by
    rw [ofText_eq_ok_iff]
    constructor
    · rintro ⟨other, hother, hsource, hrules⟩
      obtain rfl := hother.unique h
      exact ⟨hsource, hrules⟩
    · rintro ⟨hsource, hrules⟩
      exact ⟨entries, h, hsource, hrules⟩
  constructor
  · intro hnodup r
    rw [hloads, Json.merge_of_nodup hnodup]
  · intro r hr
    obtain ⟨-, hrules⟩ := (hloads r).mp hr
    refine ⟨?_, ?_, ?_⟩
    · rw [names_of_compiled hrules, Json.names_merge]
    · intro rule hrule
      obtain ⟨value, hmem, hread⟩ := exists_entry_of_compiled hrules hrule
      have hlast := Json.lookup_of_mem (Json.nodup_merge entries) hmem
      exact ⟨value, Json.lookup_merge rule.name entries ▸ hlast, hread⟩
    · rw [← List.Forall₂.length_eq hrules]
      exact Json.length_merge_eq_iff entries

/-! Texts with two entries, each with one path and one check. -/

def entryOf (name path function : String) : String × Json :=
  (name, .object [("given", .string path), ("then", .object [("function", .string function)])])

def isEntry (name path function : String) : String × Json → Bool
  | (n, .object [(g, .string p), (t, .object [(f, .string fn)])]) =>
    n == name && g == "given" && p == path && t == "then" && f == "function" && fn == function
  | _ => false

theorem eq_entryOf {name path function : String} {entry : String × Json}
    (h : isEntry name path function entry = true) : entry = entryOf name path function := by
  unfold isEntry at h
  split at h
  · simp only [Bool.and_eq_true, beq_iff_eq] at h
    obtain ⟨⟨⟨⟨⟨rfl, rfl⟩, rfl⟩, rfl⟩, rfl⟩, rfl⟩ := h
    rfl
  · exact nomatch h

/-- Whether a text writes two entries of these kinds. -/
def isPair (first second : String × Json → Bool) (c : Yaml.Content) : Bool :=
  c.ending.isNone &&
    match c.readWritten.run 0 with
    | .ok (some [a, b], _) => first a && second b
    | _ => false

theorem writes_of_isPair {c : Yaml.Content} {n p f n' p' f' : String}
    (h : isPair (isEntry n p f) (isEntry n' p' f') c = true) : c.Writes [entryOf n p f, entryOf n' p' f'] := by
  obtain ⟨hend, hread⟩ := (Bool.and_eq_true _ _).mp h
  split at hread
  · rename_i a b jumps hok
    obtain ⟨hfirst, hsecond⟩ := (Bool.and_eq_true _ _).mp hread
    obtain rfl := eq_entryOf hfirst
    obtain rfl := eq_entryOf hsecond
    exact ⟨Option.isNone_iff_eq_none.mp hend, jumps, hok⟩
  · exact nomatch hread

theorem read_truthy (name : String) : ∃ rule, Rule.read name (entryOf name "$" "truthy").2 = .ok rule :=
  ⟨_, rfl⟩

theorem read_nope (name : String) :
    Rule.read name (entryOf name "$" "nope").2 = .error (.unknownFunction "nope") :=
  rfl

/-! Different names. -/

def apartText : String :=
  "rules:\n a:\n  given: $\n  then:\n   function: truthy\n b:\n  given: $\n  then:\n   function: truthy\n"

theorem writes_apartText : (Yaml.Content.ofText apartText.toList).Writes
    [entryOf "a" "$" "truthy", entryOf "b" "$" "truthy"] :=
  writes_of_isPair (by decide +kernel)

theorem ofText_keeps_iff_apart :
    (Yaml.Content.ofText apartText.toList).Writes [entryOf "a" "$" "truthy", entryOf "b" "$" "truthy"] ∧
      ∃ r, ofText apartText.toList = .ok r ∧
        Compiled [entryOf "a" "$" "truthy", entryOf "b" "$" "truthy"] r.rules ∧ r.rules.map Rule.name = ["a", "b"] := by
  obtain ⟨a, ha⟩ := read_truthy "a"
  obtain ⟨b, hb⟩ := read_truthy "b"
  have hrules : Compiled [entryOf "a" "$" "truthy", entryOf "b" "$" "truthy"] [a, b] := .cons ha (.cons hb .nil)
  obtain ⟨hkept, hloaded⟩ := (ofText_keeps_iff apartText.toList).2 _ writes_apartText
  have hok : ofText apartText.toList = .ok ⟨none, [a, b]⟩ := (hkept (by decide) _).mpr ⟨rfl, hrules⟩
  exact ⟨writes_apartText, ⟨none, [a, b]⟩, hok, hrules, (hloaded _ hok).1⟩

/-! One name, and a first entry that cannot be read. -/

def repeatedText : String :=
  "rules:\n r:\n  given: $\n  then:\n   function: nope\n r:\n  given: $\n  then:\n   function: truthy\n"

theorem writes_repeatedText : (Yaml.Content.ofText repeatedText.toList).Writes
    [entryOf "r" "$" "nope", entryOf "r" "$" "truthy"] :=
  writes_of_isPair (by decide +kernel)

/-- The text is loaded, although one of its two entries cannot be read, and has one rule. -/
theorem ofText_loses_repeated : ∃ entries, (Yaml.Content.ofText repeatedText.toList).Writes entries ∧
    (∃ entry ∈ entries, ∀ rule, Rule.read entry.1 entry.2 ≠ .ok rule) ∧
    ∃ r, ofText repeatedText.toList = .ok r ∧ r.rules.length < entries.length := by
  obtain ⟨rule, hrule⟩ := read_truthy "r"
  refine ⟨_, writes_repeatedText, ⟨_, List.mem_cons_self, ?_⟩, ⟨none, [rule]⟩, ?_, Nat.one_lt_two⟩
  · intro other hread
    exact nomatch (read_nope "r").symm.trans hread
  · exact ofText_eq_ok_iff.mpr ⟨_, writes_repeatedText, rfl, .cons hrule .nil⟩

end Ruleset

end CatalogGate
