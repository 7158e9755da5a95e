import ConstellationNq.Library.Loop
import Mathlib.Data.List.Infix

/-!
# Codecs that depend on the place

What is written may depend on the place where it starts, as with alignment. A decoder
keeps its place in the data. It reads a format if it accepts exactly the data in which
a value of the format stands at its place; formats compose as decoders do.
-/

set_option autoImplicit false

namespace ConstellationNq.Library.PlacedCodec

open Library.Loop

variable {β ε α γ : Type}

/-! ## Writing -/

/-- What is written from a place on. -/
abbrev Writer (β : Type) := Nat → List β

namespace Writer

def nothing : Writer β := fun _ => []

def plain (items : List β) : Writer β := fun _ => items

def andThen (first second : Writer β) : Writer β := fun place =>
  first place ++ second (place + (first place).length)

/-- The data has what is written at a place, which ends at the next. -/
structure Stands (writer : Writer β) (data : List β) (place next : Nat) : Prop where
  within : place ≤ data.length
  written : writer place <+: data.drop place
  ends : next = place + (writer place).length

variable {first second writer : Writer β} {data : List β} {place next : Nat}

theorem Stands.next_le (stands : writer.Stands data place next) : next ≤ data.length := by
  have fits := stands.written.length_le
  have within := stands.within
  rw [List.length_drop] at fits
  rw [stands.ends]
  omega

theorem Stands.place_le (stands : writer.Stands data place next) : place ≤ next := by
  rw [stands.ends]
  exact Nat.le_add_right _ _

theorem stands_nothing : nothing.Stands data place next ↔ place ≤ data.length ∧ next = place :=
  ⟨fun stands => ⟨stands.within, stands.ends⟩, fun ⟨within, same⟩ => ⟨within, List.nil_prefix, same⟩⟩

theorem stands_andThen : (first.andThen second).Stands data place next ↔
    ∃ middle, first.Stands data place middle ∧ second.Stands data middle next := by
  constructor
  · intro stands
    obtain ⟨within, ⟨rest, written⟩, ends⟩ := stands
    rw [andThen, List.append_assoc] at written
    have fits : place + (first place).length ≤ data.length := by
      have lengths := congrArg List.length written
      simp only [List.length_append, List.length_drop] at lengths
      omega
    refine ⟨place + (first place).length, ⟨within, ⟨_, written⟩, rfl⟩, fits, ⟨rest, ?_⟩, ?_⟩
    · rw [← List.drop_drop, ← written, List.drop_left]
    · rw [ends, andThen, List.length_append, Nat.add_assoc]
  · rintro ⟨middle, ⟨within, ⟨between, written⟩, rfl⟩, ⟨_, ⟨rest, continued⟩, rfl⟩⟩
    refine ⟨within, ⟨rest, ?_⟩, by rw [andThen, List.length_append, Nat.add_assoc]⟩
    rw [← List.drop_drop, ← written, List.drop_left] at continued
    rw [andThen, List.append_assoc, continued, written]

/-- What stands in the whole data is the data. -/
theorem stands_whole : writer.Stands data 0 data.length ↔ data = writer 0 := by
  constructor
  · rintro ⟨_, written, ends⟩
    rw [Nat.zero_add] at ends
    exact (written.eq_of_length ends.symm).symm
  · intro same
    rw [same]
    exact ⟨Nat.zero_le _, List.prefix_rfl, (Nat.zero_add _).symm⟩

@[simp] theorem andThen_nothing : writer.andThen nothing = writer := by
  funext place
  simp [nothing, andThen]

end Writer

/-! ## Decoding -/

/-- Reads data from a place on. -/
abbrev Decoder (β ε α : Type) := ReaderT (List β) (StateT Nat (Except ε)) α

variable {data : List β} {place next : Nat} {value : γ} {decoder : Decoder β ε α} {rest : α → Decoder β ε γ}

theorem decoder_bind_eq_ok : (decoder >>= rest) data place = .ok (value, next) ↔
    ∃ first middle, decoder data place = .ok (first, middle) ∧ rest first data middle = .ok (value, next) := by
  change (decoder data place >>= fun result => rest result.1 data result.2) = _ ↔ _
  rw [bind_eq_ok]
  exact ⟨fun ⟨⟨first, middle⟩, ran, later⟩ => ⟨first, middle, ran, later⟩, fun ⟨first, middle, ran, later⟩ =>
    ⟨(first, middle), ran, later⟩⟩

/-- The decoder accepts exactly what the format writes. -/
structure Reads (decoder : Decoder β ε α) (format : α → Writer β → Prop) : Prop where
  accepts : ∀ {data place value next}, place ≤ data.length →
    (decoder data place = .ok (value, next) ↔ ∃ writer, format value writer ∧ writer.Stands data place next)

theorem Reads.of_iff {format other : α → Writer β → Prop} (reads : Reads decoder format)
    (same : ∀ value writer, format value writer ↔ other value writer) : Reads decoder other := by
  refine ⟨fun within => ?_⟩
  simp only [reads.accepts within, same]

theorem Reads.pure (value : α) :
    Reads (Pure.pure value : Decoder β ε α) fun result writer => result = value ∧ writer = Writer.nothing := by
  refine ⟨fun {data place result next} within => ?_⟩
  change Except.ok (value, place) = _ ↔ _
  constructor
  · rintro ⟨⟩
    exact ⟨_, ⟨rfl, rfl⟩, Writer.stands_nothing.mpr ⟨within, rfl⟩⟩
  · rintro ⟨_, ⟨rfl, rfl⟩, stands⟩
    rw [(Writer.stands_nothing.mp stands).2]

theorem Reads.throw {fault : ε} : Reads (MonadExcept.throw fault : Decoder β ε α) fun _ _ => False :=
  ⟨fun _ => ⟨nofun, nofun⟩⟩

theorem Reads.bind {format : α → Writer β → Prop} {formats : α → γ → Writer β → Prop} (reads : Reads decoder format)
    (others : ∀ first, Reads (rest first) (formats first)) :
    Reads (decoder >>= rest) fun value writer => ∃ first before after, format first before ∧
      formats first value after ∧ writer = before.andThen after := by
  refine ⟨fun {data place value next} within => ?_⟩
  rw [decoder_bind_eq_ok]
  constructor
  · rintro ⟨first, middle, ran, later⟩
    obtain ⟨before, known, stands⟩ := (reads.accepts within).mp ran
    obtain ⟨after, follows, continues⟩ := ((others first).accepts stands.next_le).mp later
    exact ⟨_, ⟨first, before, after, known, follows, rfl⟩, Writer.stands_andThen.mpr ⟨middle, stands, continues⟩⟩
  · rintro ⟨_, ⟨first, before, after, known, follows, rfl⟩, stands⟩
    obtain ⟨middle, starts, continues⟩ := Writer.stands_andThen.mp stands
    exact ⟨first, middle, (reads.accepts within).mpr ⟨before, known, starts⟩,
      ((others first).accepts starts.next_le).mpr ⟨after, follows, continues⟩⟩

/-- A field followed by more, for a field that is written in one way. -/
theorem Reads.field {known : α → Prop} {write : α → Writer β} {formats : α → γ → Writer β → Prop}
    (reads : Reads decoder fun first writer => known first ∧ writer = write first)
    (others : ∀ first, Reads (rest first) (formats first)) :
    Reads (decoder >>= rest) fun value writer => ∃ first, known first ∧
      ∃ after, formats first value after ∧ writer = (write first).andThen after := by
  refine (reads.bind others).of_iff fun value writer => ?_
  constructor
  · rintro ⟨first, _, after, ⟨known, rfl⟩, follows, same⟩
    exact ⟨first, known, after, follows, same⟩
  · rintro ⟨first, known, after, follows, same⟩
    exact ⟨first, _, after, ⟨known, rfl⟩, follows, same⟩

/-- The decoder never leaves the data, and fails only as tolerated. -/
structure Steady (tolerated : ε → Prop) (decoder : Decoder β ε α) : Prop where
  moves : ∀ {data place value next}, place ≤ data.length → decoder data place = .ok (value, next) →
    place ≤ next ∧ next ≤ data.length
  fails : ∀ {data place fault}, place ≤ data.length → decoder data place = .error fault → tolerated fault

variable {tolerated : ε → Prop}

theorem Steady.pure (value : α) : Steady tolerated (Pure.pure value : Decoder β ε α) where
  moves := by
    rintro data place _ _ within ⟨⟩
    exact ⟨Nat.le_refl _, within⟩
  fails := nofun

theorem Steady.throw {fault : ε} (known : tolerated fault) :
    Steady tolerated (MonadExcept.throw fault : Decoder β ε α) where
  moves := nofun
  fails := by
    rintro _ _ _ _ ⟨⟩
    exact known

/-- What follows may count on its first part having been read. -/
theorem Steady.bind (steady : Steady tolerated decoder) (others : ∀ {data place first next}, place ≤ data.length →
    decoder data place = .ok (first, next) → Steady tolerated (rest first)) : Steady tolerated (decoder >>= rest) where
  moves within ran := by
    obtain ⟨first, middle, ran, later⟩ := decoder_bind_eq_ok.mp ran
    obtain ⟨forward, inside⟩ := steady.moves within ran
    obtain ⟨further, still⟩ := (others within ran).moves inside later
    exact ⟨forward.trans further, still⟩
  fails {data place fault} within failed := by
    change (decoder data place >>= fun result => rest result.1 data result.2) = _ at failed
    cases ran : decoder data place with
    | error early =>
        rw [ran] at failed
        cases failed
        exact steady.fails within ran
    | ok result =>
        rw [ran] at failed
        exact (others within ran).fails (steady.moves within ran).2 failed

theorem Steady.get {rest : Nat → Decoder β ε γ} (others : ∀ place, Steady tolerated (rest place)) :
    Steady tolerated (MonadState.get >>= rest) where
  moves {_ place _ _} within := (others place).moves within
  fails {_ place _} within := (others place).fails within

end ConstellationNq.Library.PlacedCodec
