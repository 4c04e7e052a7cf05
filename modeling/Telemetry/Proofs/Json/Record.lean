import Mathlib.Data.List.Forall2
import Mathlib.Data.List.Nodup
import Telemetry.Proofs.Json.Quoting
import Telemetry.Proofs.Json.Soundness

/-!
Records.

What a record gives are its known members by name, or the items of an array under the names of the
fields (`lookup_of_read`). A record may be written in many ways: its members in any order, some of
them left out, and members of other names among them (`Shape.Variant`). All of these are read, and
to the same values (`read_variant`).
-/
namespace Telemetry.Json

variable {α κ : Type}

/-! ### Lists and dictionaries -/

theorem readList_ofList {read : Document → Result α} {values : List α} {docs : List Document}
    (h : List.Forall₂ (fun a d => read d = .ok a) values docs) :
    Document.readList read (.ofList docs) = .ok values := by
  show (Items.ofList .closed docs).readAll read = _
  induction h with
  | nil => rfl
  | cons hread _ ih =>
    rw [Items.ofList, Items.readAll, hread, ih]
    rfl

theorem isValid_ofList {R : α → Document → Prop} (hR : ∀ a d, R a d → d.IsValid) {values : List α}
    {docs : List Document} (h : List.Forall₂ R values docs) : (Document.ofList docs).IsValid := by
  refine Items.isValid_ofList.2 ?_
  induction h with
  | nil => rintro d ⟨⟩
  | cons hfirst _ ih =>
    intro d hd
    rcases List.mem_cons.1 hd with rfl | hd
    · exact hR _ _ hfirst
    · exact ih d hd

theorem readEntries_ofMembers {readKey : Quotation → Result κ} {readValue : Document → Result α}
    {name : κ → String} {value : α → Document}
    (hkey : ∀ k, readKey ⟨pieces (name k), none⟩ = .ok k)
    (hvalue : ∀ a, readValue (value a) = .ok a) (entries : List (κ × α)) :
    Document.readEntries readKey readValue
      (.ofMembers (entries.map fun (k, a) => (name k, value a))) = .ok entries := by
  show (Members.ofList .closed _).readAll readKey readValue = _
  rw [List.map_map]
  induction entries with
  | nil => rfl
  | cons e entries ih =>
    obtain ⟨k, a⟩ := e
    show (Members.next (pieces (name k)) (value a) (Members.ofList .closed _)).readAll _ _ = _
    rw [Members.readAll, hkey, hvalue, ih]
    rfl

theorem isValid_ofMembers {members : List (String × Document)} (h : ∀ m ∈ members, m.2.IsValid) :
    (Document.ofMembers members).IsValid := by
  refine Members.isValid_ofList.2 fun m hm => ?_
  obtain ⟨⟨name, d⟩, hd, rfl⟩ := List.mem_map.1 hm
  exact ⟨isValid_of_mem_pieces, h _ hd⟩

namespace Row

theorem lookup_of_mem {row : Row} (hrow : (row.map Prod.fst).Nodup) {name : String} {d : Document}
    (h : (name, d) ∈ row) : row.lookup name = some d := by
  induction row with
  | nil => cases h
  | cons first row ih =>
    obtain ⟨other, d'⟩ := first
    rw [List.map_cons, List.nodup_cons] at hrow
    rcases List.mem_cons.1 h with heq | hrest
    · cases heq
      exact List.lookup_cons_self
    · have hne : name ≠ other := by
        rintro rfl
        exact hrow.1 (List.mem_map.2 ⟨(name, d), hrest, rfl⟩)
      rw [List.lookup_cons, beq_false_of_ne hne]
      exact ih hrow.2 hrest

theorem lookup_of_not_mem {row : Row} {name : String} (h : name ∉ row.map Prod.fst) :
    row.lookup name = none := by
  rw [List.lookup_eq_none_iff]
  rintro ⟨other, d⟩ hmem
  rw [bne_iff_ne]
  rintro rfl
  exact h (List.mem_map_of_mem hmem)

theorem lookup_filter {row : Row} {names : List String} {name : String} (h : name ∈ names) :
    (row.filter fun m => m.1 ∈ names).lookup name = row.lookup name := by
  induction row with
  | nil => rfl
  | cons first row ih =>
    obtain ⟨other, d⟩ := first
    by_cases hother : other ∈ names
    · rw [List.filter_cons_of_pos (by simpa using hother), List.lookup_cons, List.lookup_cons, ih]
    · have hne : name ≠ other := fun heq => hother (heq ▸ h)
      rw [List.filter_cons_of_neg (by simpa using hother), List.lookup_cons,
        beq_false_of_ne hne, ih]

end Row

/-- The members by name. A member whose key is no string has none. -/
def named (members : List (List Piece × Document)) : Row :=
  members.filterMap fun m => (Quotation.read ⟨m.1, none⟩).toOption.map (·, m.2)

theorem named_cons {m : List Piece × Document} {name : String}
    (h : Quotation.read ⟨m.1, none⟩ = .ok name) (members : List (List Piece × Document)) :
    named (m :: members) = (name, m.2) :: named members := by
  rw [named, List.filterMap_cons, h]
  rfl

theorem named_pieces (row : Row) :
    named (row.map fun (name, value) => (pieces name, value)) = row := by
  induction row with
  | nil => rfl
  | cons m row ih => rw [List.map_cons, named_cons (Quotation.read_pieces m.1), ih]

namespace Shape

/-- The members that the record has fields for. -/
def known (s : Shape) (members : List (List Piece × Document)) : Row :=
  (named members).filter fun m => m.1 ∈ s.names

theorem known_cons_of_mem {s : Shape} {m : List Piece × Document} {name : String}
    (h : Quotation.read ⟨m.1, none⟩ = .ok name) (hname : name ∈ s.names)
    (members : List (List Piece × Document)) :
    s.known (m :: members) = (name, m.2) :: s.known members := by
  rw [known, named_cons h, List.filter_cons_of_pos (by simpa using hname), known]

theorem known_cons_of_not_mem {s : Shape} {m : List Piece × Document} {name : String}
    (h : Quotation.read ⟨m.1, none⟩ = .ok name) (hname : name ∉ s.names)
    (members : List (List Piece × Document)) : s.known (m :: members) = s.known members := by
  rw [known, named_cons h, List.filter_cons_of_neg (by simpa using hname), known]

theorem known_perm (s : Shape) {members others : List (List Piece × Document)}
    (h : members.Perm others) : (s.known members).Perm (s.known others) :=
  (h.filterMap _).filter _

theorem known_append (s : Shape) (members others : List (List Piece × Document)) :
    s.known (members ++ others) = s.known members ++ s.known others := by
  rw [known, named, List.filterMap_append, List.filter_append]
  rfl

/-! ### One key -/

theorem find?_name_eq_none {s : Shape} {name : String} (h : name ∉ s.names) :
    (s.fields.find? fun field => field.name = name) = none := by
  rw [List.find?_eq_none]
  intro field hfield hname
  exact h (of_decide_eq_true hname ▸ List.mem_map_of_mem hfield)

theorem find?_name_eq_some {s : Shape} (hs : s.names.Nodup) {field : Field}
    (h : field ∈ s.fields) :
    (s.fields.find? fun other => other.name = field.name) = some field := by
  unfold names at hs
  generalize s.fields = fields at hs h
  induction fields with
  | nil => cases h
  | cons first fields ih =>
    rw [List.map_cons, List.nodup_cons] at hs
    rcases List.mem_cons.1 h with rfl | h
    · rw [List.find?_cons_of_pos (by simp)]
    · have hne : first.name ≠ field.name := fun hname =>
        hs.1 (hname ▸ List.mem_map_of_mem h)
      rw [List.find?_cons_of_neg (by simpa using hne), ih hs.2 h]

theorem fieldOf_of_not_mem {s : Shape} {key : Quotation} {name : String} (h : key.read = .ok name)
    (hname : name ∉ s.names) (seen : List String) : s.fieldOf seen key = .ok (name, none) := by
  simp only [fieldOf, h, bind, Except.bind, find?_name_eq_none hname]
  rfl

theorem fieldOf_of_mem {s : Shape} (hs : s.names.Nodup) {key : Quotation} {field : Field}
    (hfield : field ∈ s.fields) (h : key.read = .ok field.name) {seen : List String}
    (hseen : field.name ∉ seen) : s.fieldOf seen key = .ok (field.name, some field) := by
  simp only [fieldOf, h, bind, Except.bind, find?_name_eq_some hs hfield]
  exact if_neg hseen

/-! ### What a record gives -/

theorem known_of_readMembers {s : Shape} :
    ∀ (members : Members) (seen : List String) (row : Row),
      s.readMembers seen members = .ok row → row = s.known members.toList
  | .stop reason, seen, row, h => by
    rw [readMembers] at h
    obtain ⟨-, -, h⟩ := bind_eq_ok.1 h
    split at h
    · cases h
    · cases h
      rfl
  | .next key value rest, seen, row, h => by
    rw [readMembers] at h
    obtain ⟨⟨name, field⟩, hkey, h⟩ := bind_eq_ok.1 h
    obtain ⟨hname, ⟨rfl, hunknown⟩ | ⟨f, rfl, hf, rfl⟩⟩ := fieldOf_eq_ok hkey
    · obtain ⟨-, -, hrest⟩ := bind_eq_ok.1 h
      rw [Members.toList, known_cons_of_not_mem hname hunknown]
      exact known_of_readMembers rest seen row hrest
    · obtain ⟨-, -, h⟩ := bind_eq_ok.1 h
      obtain ⟨row', hrest, ⟨⟩⟩ := bind_eq_ok.1 h
      rw [Members.toList, known_cons_of_mem hname (List.mem_map_of_mem hf),
        ← known_of_readMembers rest _ row' hrest]

theorem zip_of_readItems {s : Shape} {fields : List Field} (index : Nat) (items : Items) (row : Row)
    (h : s.readItems index fields items = .ok row) :
    row = (fields.map Field.name).zip items.toList := by
  induction fields generalizing index items row with
  | nil =>
    cases items with
    | next => cases h
    | stop reason =>
      cases reason with
      | closed => cases h; rfl
      | ended | noComma | commaThenClose | commaThenEnd => cases h
  | cons field fields ih =>
    cases items with
    | stop reason =>
      rw [readItems] at h
      obtain ⟨-, -, h⟩ := bind_eq_ok.1 h
      split at h
      · cases h
      · rw [ih (index + 1) (.stop reason) row h, Items.toList, List.zip_nil_right,
          List.zip_nil_right]
    | next item rest =>
      rw [readItems] at h
      obtain ⟨-, -, h⟩ := bind_eq_ok.1 h
      obtain ⟨row', hrest, ⟨⟩⟩ := bind_eq_ok.1 h
      rw [ih (index + 1) rest row' hrest]
      rfl

/-- The value under a name: the first member of that name, or the item in the place of the field. -/
def value? (s : Shape) (name : String) : Document → Option Document
  | .object members => (named members.toList).lookup name
  | .array items => (s.names.zip items.toList).lookup name
  | _ => none

theorem value?_ofMembers (s : Shape) (name : String) (row : Row) :
    s.value? name (.ofMembers row) = row.lookup name := by
  rw [Document.ofMembers, value?, Members.toList_ofList, named_pieces]

theorem lookup_of_read {s : Shape} {d : Document} {row : Row} (h : s.read d = .ok row)
    {name : String} (hname : name ∈ s.names) : row.lookup name = s.value? name d := by
  cases d with
  | array items =>
    rw [s.zip_of_readItems 0 items row h]
    rfl
  | object members =>
    rw [known_of_readMembers members [] row h, known, Row.lookup_filter hname]
    rfl
  | word | number | text | absent | faulty => cases h

/-! ### What is read -/

/-- A member that the record has no field for. -/
def Unknown (s : Shape) (m : List Piece × Document) : Prop :=
  (∃ name, Quotation.read ⟨m.1, none⟩ = .ok name ∧ name ∉ s.names) ∧ (∀ p ∈ m.1, p.IsValid) ∧
    m.2.IsValid

theorem unknown_pieces {s : Shape} {name : String} (hname : name ∉ s.names) {d : Document}
    (hd : d.IsValid) : s.Unknown (pieces name, d) :=
  ⟨⟨name, Quotation.read_pieces name, hname⟩, isValid_of_mem_pieces, hd⟩

/-- A member that a field takes. -/
def Taken (s : Shape) (m : List Piece × Document) : Prop :=
  ∃ f ∈ s.fields, Quotation.read ⟨m.1, none⟩ = .ok f.name ∧ f.check m.2 = .ok ()

theorem missing?_eq_none {s : Shape} {seen : List String}
    (h : ∀ f ∈ s.fields, f.needed = true → f.name ∈ seen) : s.missing? seen = none := by
  rw [missing?, Option.map_eq_none_iff, List.find?_eq_none]
  intro f hf hmissing
  simp only [Bool.and_eq_true, Bool.not_eq_true', List.contains_eq_mem, decide_eq_false_iff_not]
    at hmissing
  exact hmissing.2 (h f hf hmissing.1)

theorem readMembers_ofList {s : Shape} (hs : s.names.Nodup)
    {members : List (List Piece × Document)} (hmembers : ∀ m ∈ members, s.Unknown m ∨ s.Taken m)
    (hnodup : ((s.known members).map Prod.fst).Nodup) (seen : List String)
    (hfresh : ∀ name ∈ (s.known members).map Prod.fst, name ∉ seen)
    (hneeded : ∀ f ∈ s.fields, f.needed = true →
      f.name ∈ seen ∨ f.name ∈ (s.known members).map Prod.fst) :
    s.readMembers seen (Members.ofList .closed members) = .ok (s.known members) := by
  -- each field that is read joins `seen`, and those to come stay apart from it
  induction members generalizing seen with
  | nil =>
    have hmissing := missing?_eq_none fun f hf hf' =>
      (hneeded f hf hf').resolve_right (by rintro ⟨⟩)
    rw [Members.ofList, readMembers, hmissing]
    rfl
  | cons m members ih =>
    have hrest := fun m' hm' => hmembers m' (List.mem_cons_of_mem _ hm')
    obtain ⟨key, value⟩ := m
    rw [Members.ofList, readMembers]
    rcases hmembers _ List.mem_cons_self with
      ⟨⟨name, hname, hunknown⟩, -, hvalue⟩ | ⟨f, hf, hname, hcheck⟩
    · rw [known_cons_of_not_mem hname hunknown] at hnodup hfresh hneeded ⊢
      have hskip := value.skip_eq_ok.2 (value.isSound_of_isValid hvalue)
      rw [fieldOf_of_not_mem hname hunknown]
      show (do value.skip; s.readMembers seen (Members.ofList .closed members)) = _
      rw [hskip]
      exact ih hrest hnodup seen hfresh hneeded
    · rw [known_cons_of_mem hname (List.mem_map_of_mem hf)] at hnodup hfresh hneeded ⊢
      obtain ⟨hfirst, hnodup⟩ := List.nodup_cons.1 hnodup
      rw [fieldOf_of_mem hs hf hname (hfresh f.name List.mem_cons_self)]
      show (do
        f.check value
        let row ← s.readMembers (f.name :: seen) (Members.ofList .closed members)
        return (f.name, value) :: row) = _
      have hfresh' : ∀ name ∈ (s.known members).map Prod.fst, name ∉ f.name :: seen := by
        intro name hmem hseen
        rcases List.mem_cons.1 hseen with rfl | hseen
        · exact hfirst hmem
        · exact hfresh name (List.mem_cons_of_mem _ hmem) hseen
      have hneeded' : ∀ g ∈ s.fields, g.needed = true →
          g.name ∈ f.name :: seen ∨ g.name ∈ (s.known members).map Prod.fst := by
        intro g hg hg'
        rcases hneeded g hg hg' with hseen | hmem
        · exact Or.inl (List.mem_cons_of_mem _ hseen)
        rcases List.mem_cons.1 hmem with heq | hmem
        · exact Or.inl (heq ▸ List.mem_cons_self)
        · exact Or.inr hmem
      rw [hcheck, ih hrest hnodup (f.name :: seen) hfresh' hneeded']
      rfl

end Shape

/-! ### The ways to write a record -/

/-- A member of a record, and whether it may be left out. -/
structure Entry where
  name : String
  value : Document
  spare : Bool

namespace Entry

/-- The member as it is written. -/
def member (e : Entry) : List Piece × Document := (pieces e.name, e.value)

end Entry

namespace Row

/-- The value of an entry stands under its name, or nothing does and the entry may be left out. -/
def Has (row : Row) (e : Entry) : Prop :=
  row.lookup e.name = some e.value ∨ row.lookup e.name = none ∧ e.spare = true

theorem need_of_has {row : Row} {name : String} {d : Document} (h : row.Has ⟨name, d, false⟩)
    {read : Document → Result α} {a : α} (hread : read d = .ok a) : row.need name read = .ok a := by
  rcases h with h | ⟨-, ⟨⟩⟩
  rw [need, h, ← hread]

theorem getD_of_has {row : Row} {name : String} {d : Document} {spare : Bool}
    (h : row.Has ⟨name, d, spare⟩) {read : Document → Result α} {a absent : α}
    (hread : read d = .ok a) (habsent : spare = true → a = absent) :
    row.getD name read absent = .ok a := by
  rcases h with h | ⟨h, hspare⟩
  · rw [getD, h, ← hread]
  · rw [getD, h, habsent hspare]

end Row

theorem Field.check_of {name : String} {needed : Bool} {read : Document → Result α} {d : Document}
    {a : α} (h : read d = .ok a) : (Field.of name needed read).check d = .ok () := by
  show (read d).map _ = _
  rw [h]
  rfl

namespace Shape

/-- An entry that the field takes; it may be left out only if the field may be missing. -/
structure Suits (e : Entry) (f : Field) : Prop where
  name : e.name = f.name
  check : f.check e.value = .ok ()
  needed : f.needed = true → e.spare = false

/-- There is an entry for each field. -/
def Fits (s : Shape) (own : List Entry) : Prop := List.Forall₂ Suits own s.fields

/-- The entries in any order, without some of the spare ones, and members of other names. -/
def Variant (s : Shape) (own : List Entry) (d : Document) : Prop :=
  ∃ (kept : List Entry) (extra members : List (List Piece × Document)),
    kept.Sublist own ∧ (∀ e ∈ own, e ∈ kept ∨ e.spare = true) ∧ (∀ m ∈ extra, s.Unknown m) ∧
    members.Perm (kept.map Entry.member ++ extra) ∧ d = .object (Members.ofList .closed members)

/-- Without other members, in order. -/
theorem variant_ofMembers (s : Shape) (kept : List Entry) {own : List Entry}
    (hkept : kept.Sublist own)
    (hspare : ∀ e ∈ own, e ∈ kept ∨ e.spare = true) :
    s.Variant own (.ofMembers (kept.map fun e => (e.name, e.value))) := by
  refine ⟨kept, [], kept.map Entry.member, hkept, hspare, by rintro m ⟨⟩, ?_, ?_⟩
  · rw [List.append_nil]
  · rw [Document.ofMembers, List.map_map]
    rfl

theorem variant_self (s : Shape) (own : List Entry) :
    s.Variant own (.ofMembers (own.map fun e => (e.name, e.value))) :=
  s.variant_ofMembers own (.refl own) fun _ he => Or.inl he

theorem isValid_of_variant {s : Shape} {own : List Entry} {d : Document}
    (hown : ∀ e ∈ own, e.value.IsValid) (h : s.Variant own d) : d.IsValid := by
  obtain ⟨kept, extra, members, hkept, -, hextra, hperm, rfl⟩ := h
  refine Members.isValid_ofList.2 fun m hm => ?_
  rcases List.mem_append.1 (hperm.mem_iff.1 hm) with hm | hm
  · obtain ⟨e, he, rfl⟩ := List.mem_map.1 hm
    exact ⟨isValid_of_mem_pieces, hown e (hkept.subset he)⟩
  · exact (hextra m hm).2

theorem Fits.map_name {s : Shape} {own : List Entry} (h : s.Fits own) :
    own.map Entry.name = s.names := by
  unfold Fits at h
  unfold names
  generalize s.fields = fields at h
  induction h with
  | nil => rfl
  | cons hsuits _ ih => rw [List.map_cons, List.map_cons, ih, hsuits.name]

theorem Fits.field {s : Shape} {own : List Entry} (h : s.Fits own) {e : Entry} (he : e ∈ own) :
    ∃ f ∈ s.fields, Suits e f := by
  unfold Fits at h
  generalize s.fields = fields at h
  induction h with
  | nil => cases he
  | cons hsuits _ ih =>
    rcases List.mem_cons.1 he with rfl | he
    · exact ⟨_, List.mem_cons_self, hsuits⟩
    · obtain ⟨f, hf, hsuits⟩ := ih he
      exact ⟨f, List.mem_cons_of_mem _ hf, hsuits⟩

theorem Fits.entry {s : Shape} {own : List Entry} (h : s.Fits own) {f : Field} (hf : f ∈ s.fields) :
    ∃ e ∈ own, Suits e f := by
  unfold Fits at h
  generalize s.fields = fields at h hf
  induction h with
  | nil => cases hf
  | cons hsuits _ ih =>
    rcases List.mem_cons.1 hf with rfl | hf
    · exact ⟨_, List.mem_cons_self, hsuits⟩
    · obtain ⟨e, he, hsuits⟩ := ih hf
      exact ⟨e, List.mem_cons_of_mem _ he, hsuits⟩

theorem known_entries {s : Shape} {kept : List Entry} (h : ∀ e ∈ kept, e.name ∈ s.names) :
    s.known (kept.map Entry.member) = kept.map fun e => (e.name, e.value) := by
  induction kept with
  | nil => rfl
  | cons e kept ih =>
    rw [List.map_cons, known_cons_of_mem (Quotation.read_pieces e.name) (h e List.mem_cons_self),
      ih fun e' he' => h e' (List.mem_cons_of_mem _ he')]
    rfl

theorem known_extra {s : Shape} {extra : List (List Piece × Document)}
    (h : ∀ m ∈ extra, s.Unknown m) : s.known extra = [] := by
  induction extra with
  | nil => rfl
  | cons m extra ih =>
    obtain ⟨⟨name, hname, hunknown⟩, -, -⟩ := h m List.mem_cons_self
    rw [known_cons_of_not_mem hname hunknown, ih fun m' hm' => h m' (List.mem_cons_of_mem _ hm')]

/-- Every variant is read to the values of its entries. -/
theorem read_variant {s : Shape} (hs : s.names.Nodup) {own : List Entry} (hfits : s.Fits own)
    {d : Document} (h : s.Variant own d) :
    ∃ row, s.read d = .ok row ∧ ∀ e ∈ own, row.Has e := by
  obtain ⟨kept, extra, members, hkept, hspare, hextra, hperm, rfl⟩ := h
  have hkeptNames : (kept.map Entry.name).Nodup :=
    (hfits.map_name ▸ hs).sublist (hkept.map Entry.name)
  have hownNames : (own.map Entry.name).Nodup := hfits.map_name ▸ hs
  -- the known members are the kept entries again, in some order
  have hknown : (s.known members).Perm (kept.map fun e => (e.name, e.value)) := by
    have hentries : s.known (kept.map Entry.member) = kept.map fun e => (e.name, e.value) :=
      known_entries fun e he => hfits.map_name ▸ List.mem_map_of_mem (hkept.subset he)
    have hall := s.known_perm hperm
    rwa [known_append, hentries, known_extra hextra, List.append_nil] at hall
  have hnames : ((s.known members).map Prod.fst).Perm (kept.map Entry.name) := by
    have hmap := hknown.map Prod.fst
    rwa [List.map_map] at hmap
  have hnodup : ((s.known members).map Prod.fst).Nodup := hnames.nodup_iff.2 hkeptNames
  have hmembers : ∀ m ∈ members, s.Unknown m ∨ s.Taken m := by
    intro m hm
    rcases List.mem_append.1 (hperm.mem_iff.1 hm) with hm | hm
    · obtain ⟨e, he, rfl⟩ := List.mem_map.1 hm
      obtain ⟨f, hf, hsuits⟩ := hfits.field (hkept.subset he)
      exact Or.inr ⟨f, hf, hsuits.name ▸ Quotation.read_pieces e.name, hsuits.check⟩
    · exact Or.inl (hextra m hm)
  have hneeded : ∀ f ∈ s.fields, f.needed = true →
      f.name ∈ [] ∨ f.name ∈ (s.known members).map Prod.fst := by
    intro f hf hf'
    obtain ⟨e, he, hsuits⟩ := hfits.entry hf
    have hmem : e ∈ kept := (hspare e he).resolve_right (by simp [hsuits.needed hf'])
    exact Or.inr (hnames.mem_iff.2 (hsuits.name ▸ List.mem_map_of_mem hmem))
  refine ⟨s.known members, readMembers_ofList hs hmembers hnodup [] (by simp) hneeded, ?_⟩
  intro e he
  by_cases hmem : e ∈ kept
  · exact Or.inl (Row.lookup_of_mem hnodup (hknown.mem_iff.2 (List.mem_map.2 ⟨e, hmem, rfl⟩)))
  · refine Or.inr ⟨Row.lookup_of_not_mem fun hname => ?_, (hspare e he).resolve_left hmem⟩
    obtain ⟨e', he', hname⟩ := List.mem_map.1 (hnames.mem_iff.1 hname)
    exact hmem (List.inj_on_of_nodup_map hownNames (hkept.subset he') he hname ▸ he')

end Shape

end Telemetry.Json
