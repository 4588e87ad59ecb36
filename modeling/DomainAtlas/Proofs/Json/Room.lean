import DomainAtlas.Proofs.Json.RoundTrip
import DomainAtlas.Proofs.Schema

/-!
# Reading in more room

How much room there is decides only whether a text is read at all: where it is read, or refused for
another reason, more room makes no difference (`Json.parse_of_le`). What is read is never deeper than the
room it was read in (`Json.within_of_parse`).
-/
namespace DomainAtlas.Json

/-- What is read in some room is read in more room, unless it is refused for lack of room. -/
def Fits {α : Type} (little more : Except Fault α) : Prop :=
  little = more ∨ ∃ kind, little = .error (.nested kind)

section Fits

variable {α β : Type} {little more : Except Fault α}

theorem Fits.refl (step : Except Fault α) : Fits step step := .inl rfl

theorem Fits.map (h : Fits little more) (f : α → β) : Fits (little.map f) (more.map f) := by
  rcases h with rfl | ⟨kind, rfl⟩
  · exact .refl _
  · exact .inr ⟨kind, rfl⟩

end Fits

/-- Values, items and members fit, as far as the fuel goes. -/
structure FitsAt (little more fuel : Nat) : Prop where
  value (cs : List Char) : Fits (value little fuel cs) (value more fuel cs)
  items (cs : List Char) : Fits (items little fuel cs) (items more fuel cs)
  members (cs : List Char) : Fits (members little fuel cs) (members more fuel cs)

section Steps

variable {little more fuel : Nat}

theorem fits_value_succ (le : little ≤ more)
    (inner : ∀ little more, little ≤ more → FitsAt little more fuel) (cs : List Char) :
    Fits (value little (fuel + 1) cs) (value more (fuel + 1) cs) := by
  rcases cs with _ | ⟨c, rest⟩
  · exact .inl (by simp only [value])
  by_cases quote : c = '"'
  · subst quote
    exact .inl (by rw [value, value])
  by_cases bracket : c = '['
  · subst bracket
    cases little with
    | zero => exact .inr ⟨"array", by rw [value]⟩
    | succ little =>
      obtain ⟨more, rfl⟩ : ∃ k, more = k + 1 := ⟨more - 1, by omega⟩
      rw [value, value]
      split
      · exact .refl _
      · exact ((inner little more (by omega)).items _).map _
  by_cases brace : c = '\x7b'
  · subst brace
    cases little with
    | zero => exact .inr ⟨"object", by rw [value]⟩
    | succ little =>
      obtain ⟨more, rfl⟩ : ∃ k, more = k + 1 := ⟨more - 1, by omega⟩
      rw [value, value]
      split
      · exact .refl _
      · exact ((inner little more (by omega)).members _).map _
  · exact .inl ((value_scalar little fuel quote bracket brace rest).trans
      (value_scalar more fuel quote bracket brace rest).symm)

theorem fits_items_succ (h : FitsAt little more fuel) (cs : List Char) :
    Fits (items little (fuel + 1) cs) (items more (fuel + 1) cs) := by
  rw [items, items]
  rcases h.value cs with same | ⟨kind, deep⟩
  · rw [same]
    split
    · exact .refl _
    · split
      · exact .refl _
      · exact (h.items _).map _
      · exact .refl _
  · exact .inr ⟨kind, by rw [deep]⟩

theorem fits_members_succ (h : FitsAt little more fuel) (cs : List Char) :
    Fits (members little (fuel + 1) cs) (members more (fuel + 1) cs) := by
  rw [members.eq_def, members.eq_def]
  dsimp only
  split
  · split
    · exact .refl _
    · split
      · next rest _ =>
        rcases h.value (skipSpace rest) with same | ⟨kind, deep⟩
        · rw [same]
          split
          · exact .refl _
          · split
            · exact .refl _
            · exact (h.members _).map _
            · exact .refl _
        · exact .inr ⟨kind, by rw [deep]⟩
      · exact .refl _
  · exact .refl _

end Steps

/-- By induction on the fuel: what is read first fits, and then the rest does. -/
theorem fitsAt_of_le (fuel : Nat) {little more : Nat} (le : little ≤ more) :
    FitsAt little more fuel := by
  induction fuel generalizing little more with
  | zero =>
    exact ⟨fun _ => .inl (by rw [value, value]), fun _ => .inl (by rw [items, items]),
      fun _ => .inl (by rw [members, members])⟩
  | succ fuel ih =>
    exact ⟨fits_value_succ le fun _ _ => ih, fits_items_succ (ih le), fits_members_succ (ih le)⟩

theorem fits_parseChars {little more : Nat} (le : little ≤ more) (cs : List Char) :
    Fits (parseChars little cs) (parseChars more cs) := by
  unfold parseChars
  split
  · exact .refl _
  · rcases (fitsAt_of_le (2 * cs.length + 1) le).value (skipSpace cs) with same | ⟨kind, deep⟩
    · rw [same]
      exact .refl _
    · exact .inr ⟨kind, by rw [deep]⟩

/-- **Room.** A text that is read as a value in some room is read as the same value in less room, or
refused because it is too deep for that. -/
theorem parse_of_le {little more : Nat} (le : little ≤ more) {text : String} {v : Json}
    (h : parse more text = .ok v) :
    parse little text = .ok v ∨ ∃ message, parse little text = .error (.nested message) := by
  unfold parse at h ⊢
  rcases fits_parseChars le text.toList with same | ⟨kind, deep⟩
  · rw [same]
    exact .inl h
  · rw [deep]
    exact .inr ⟨_, rfl⟩

/-- And in more room it is read as the same value. -/
theorem parse_mono {little more : Nat} (le : little ≤ more) {text : String} {v : Json}
    (h : parse little text = .ok v) : parse more text = .ok v := by
  unfold parse at h ⊢
  rcases fits_parseChars le text.toList with same | ⟨kind, deep⟩
  · rwa [← same]
  · rw [deep] at h
    cases h

/-! ## What is read -/

/-- A value is no deeper than some room. -/
inductive Within : Json → Nat → Prop
  | null {room : Nat} : Within .null room
  | bool {room : Nat} (b : Bool) : Within (.bool b) room
  | int {room : Nat} (n : Int) : Within (.int n) room
  | float {room : Nat} (x : Double) : Within (.float x) room
  | str {room : Nat} (s : String) : Within (.str s) room
  | arr {room : Nat} {vs : List Json} (h : ∀ v ∈ vs, Within v room) : Within (.arr vs) (room + 1)
  | obj {room : Nat} {ms : List (String × Json)} (h : ∀ m ∈ ms, Within m.2 room) :
    Within (.obj ms) (room + 1)

theorem within_number {room : Nat} {neg : Bool} {left : Nat} {cs rest : List Char} {v : Json}
    (h : number neg left cs = .ok (v, rest)) : Within v room := by
  unfold number at h
  split at h
  · cases h
  · dsimp only at h
    split at h
    · split at h
      · cases h
      · cases h
        exact .int _
    · cases h
      exact .float _

theorem within_scalar {room : Nat} {cs rest : List Char} {v : Json}
    (h : scalar cs = .ok (v, rest)) : Within v room := by
  have word : ∀ e ∈ words, Within e.2 room := by
    simp only [words, List.forall_mem_cons]
    exact ⟨.null, .bool _, .bool _, .float _, .float _, .float _, List.forall_mem_nil _⟩
  unfold scalar at h
  split at h
  · next found =>
    cases h
    obtain ⟨e, he, taken⟩ := List.exists_of_findSome?_eq_some found
    obtain ⟨rest', -, same⟩ := Option.map_eq_some_iff.mp taken
    cases same
    exact word e he
  · split at h
    · exact within_number h
    · exact within_number h

theorem mem_of_mem_foldl_setMember {ps acc : List (String × Json)} {m : String × Json}
    (h : m ∈ ps.foldl (fun acc p => setMember p.1 p.2 acc) acc) : m ∈ acc ∨ m ∈ ps := by
  induction ps generalizing acc with
  | nil => exact .inl h
  | cons p ps ih =>
    rcases ih h with old | new
    · simp only [setMember_eq_putEntry] at old
      rcases mem_of_mem_putEntry old with rfl | old
      · exact .inr List.mem_cons_self
      · exact .inl old
    · exact .inr (List.mem_cons_of_mem _ new)

theorem mem_of_mem_ofPairs {ms : List (String × Json)} {m : String × Json} (h : m ∈ ofPairs ms) :
    m ∈ ms :=
  (mem_of_mem_foldl_setMember h).resolve_left List.not_mem_nil

/-- What is read is no deeper than the room, as far as the fuel goes. -/
structure WithinAt (room fuel : Nat) : Prop where
  value {cs rest : List Char} {v : Json} (h : value room fuel cs = .ok (v, rest)) : Within v room
  items {cs rest : List Char} {vs : List Json} (h : items room fuel cs = .ok (vs, rest)) :
    ∀ v ∈ vs, Within v room
  members {cs rest : List Char} {ms : List (String × Json)}
    (h : members room fuel cs = .ok (ms, rest)) : ∀ m ∈ ms, Within m.2 room

section Steps

variable {room fuel : Nat}

theorem within_value_succ (inner : ∀ room, WithinAt room fuel) {cs rest : List Char} {v : Json}
    (h : value room (fuel + 1) cs = .ok (v, rest)) : Within v room := by
  rw [value.eq_def] at h
  dsimp only at h
  split at h
  · obtain ⟨read, -, same⟩ := map_eq_ok h
    cases same
    exact .str read.1
  · cases h
  · split at h
    · cases h
      exact .arr (List.forall_mem_nil _)
    · obtain ⟨read, inside, same⟩ := map_eq_ok h
      cases same
      exact .arr ((inner _).items inside)
  · cases h
  · split at h
    · cases h
      exact .obj (List.forall_mem_nil _)
    · obtain ⟨read, inside, same⟩ := map_eq_ok h
      cases same
      exact .obj fun m hm => (inner _).members inside m (mem_of_mem_ofPairs hm)
  · exact within_scalar h

theorem within_items_succ (h : WithinAt room fuel) {cs rest : List Char} {vs : List Json}
    (read : items room (fuel + 1) cs = .ok (vs, rest)) : ∀ v ∈ vs, Within v room := by
  rw [items] at read
  split at read
  · cases read
  · next v _ first =>
    have head := h.value first
    split at read
    · cases read
      simpa using head
    · obtain ⟨tail, more, same⟩ := map_eq_ok read
      cases same
      exact List.forall_mem_cons.mpr ⟨head, h.items more⟩
    · cases read

theorem within_members_succ (h : WithinAt room fuel) {cs rest : List Char}
    {ms : List (String × Json)} (read : members room (fuel + 1) cs = .ok (ms, rest)) :
    ∀ m ∈ ms, Within m.2 room := by
  rw [members.eq_def] at read
  dsimp only at read
  split at read
  · split at read
    · cases read
    · split at read
      · split at read
        · cases read
        · next first =>
          have head := h.value first
          split at read
          · cases read
            simpa using head
          · obtain ⟨tail, more, same⟩ := map_eq_ok read
            cases same
            exact List.forall_mem_cons.mpr ⟨head, h.members more⟩
          · cases read
      · cases read
  · cases read

end Steps

theorem withinAt (fuel room : Nat) : WithinAt room fuel := by
  induction fuel generalizing room with
  | zero =>
    refine ⟨fun h => ?_, fun h => ?_, fun h => ?_⟩
    · rw [value] at h
      cases h
    · rw [items] at h
      cases h
    · rw [members] at h
      cases h
  | succ fuel ih =>
    exact ⟨within_value_succ ih, within_items_succ (ih room), within_members_succ (ih room)⟩

/-- **Depth.** What is read is no deeper than the room it is read in. -/
theorem within_of_parse {room : Nat} {text : String} {v : Json} (h : parse room text = .ok v) :
    Within v room := by
  unfold parse parseChars at h
  split at h
  · next read =>
    cases h
    split at read
    · cases read
    · split at read
      · cases read
      · next value =>
        split at read
        · cases read
          exact (withinAt _ room).value value
        · cases read
  · cases h

end DomainAtlas.Json
