/-
Ways from the root of a tree down to a slot. A way keeps everything around the slot, so that filling
it with other contents is the tree with that one slot changed; the outline before and behind the
slot does not depend on the contents.
-/
import FormBuilder.Proofs.Tree.Outline
import Mathlib.Data.List.Basic

namespace FormBuilder

/-! ## Ways down -/

/-- A container with one of its slots left open. -/
inductive Layer where
  | group (head : Field.Head) (columns : UInt32)
  | repeater (head : Field.Head) (addLabel : String)
  | tab (head : Field.Head) (before : List (Tab Field)) (id label : String)
    (after : List (Tab Field))
  | variantA (head : Field.Head) (variantB : List Field)
  | variantB (head : Field.Head) (variantA : List Field)

namespace Layer

def fill (cs : List Field) : Layer → Field
  | .group h n => .group h n cs
  | .repeater h l => .repeater h l cs
  | .tab h before id label after => .tabs h (before ++ ⟨id, label, cs⟩ :: after)
  | .variantA h b => .abTest h cs b
  | .variantB h a => .abTest h a cs

/-- The address of the open slot. -/
def slot : Layer → Slot
  | .group h _ | .repeater h _ => .children h.id
  | .tab h _ id _ _ => .tab h.id id
  | .variantA h _ => .variant h.id .a
  | .variantB h _ => .variant h.id .b

def shell (l : Layer) : Field := (l.fill []).shell

/-- The outline of the slots before the open one. -/
def before : Layer → List Mark
  | .tab h before _ _ _ => Field.marksTabs h.id before
  | .variantB h a => Field.marksSlot (.variant h.id .a) a
  | _ => []

/-- The outline of the slots behind the open one. -/
def after : Layer → List Mark
  | .tab h _ _ _ after => Field.marksTabs h.id after
  | .variantA h b => Field.marksSlot (.variant h.id .b) b
  | _ => []

theorem shell_fill (l : Layer) (cs : List Field) : (l.fill cs).shell = l.shell := by
  cases l <;> simp [shell, fill, Field.shell]

theorem marksInside_fill (l : Layer) (cs : List Field) :
    (l.fill cs).marksInside = l.before ++ (Field.marksSlot l.slot cs ++ l.after) := by
  cases l with
  | group | repeater => simp [fill, Field.marksInside, before, slot, after, Field.marksSlot]
  | tab h ts id label us =>
    simp [fill, Field.marksInside, before, slot, after, Field.marksSlot, Field.marksTabs_append,
      Field.marksTabs]
  | variantA | variantB => simp [fill, Field.marksInside, before, slot, after, Field.marksSlot]

/-- What is inside a layer before and behind the open slot does not depend on its contents. -/
theorem inside_fill (l : Layer) : ∃ es es', es.map Field.place = Outline.places l.before ∧
    ∀ cs, (l.fill cs).inside = es ++ (Field.entriesFrom l.slot 0 cs ++ es') := by
  cases l with
  | group h n => exact ⟨[], [], rfl, fun cs => by simp [fill, Field.inside, slot]⟩
  | repeater h l => exact ⟨[], [], rfl, fun cs => by simp [fill, Field.inside, slot]⟩
  | tab h ts id label us =>
    refine ⟨Field.insideTabs h.id ts, Field.insideTabs h.id us,
      (Field.places_marksTabs h.id ts).symm, fun cs => ?_⟩
    simp [fill, Field.inside, slot, Field.insideTabs_append, Field.insideTabs]
  | variantA h vb =>
    refine ⟨[], Field.entriesFrom (.variant h.id .b) 0 vb, rfl, fun cs => ?_⟩
    simp [fill, Field.inside, slot]
  | variantB h va =>
    refine ⟨Field.entriesFrom (.variant h.id .a) 0 va, [],
      (Field.places_marksAmong _ 0 va).symm, fun cs => ?_⟩
    simp [fill, Field.inside, slot]

end Layer

/-- A container among other fields, with one of its slots left open. -/
structure Level where
  before : List Field
  layer : Layer
  after : List Field

/-- The containers around a slot from the outermost to the innermost. -/
abbrev Path := List Level

namespace Path

/-- The contents of the slot where the way begins, when those where it ends are `cs`. -/
def fill (cs : List Field) : Path → List Field
  | [] => cs
  | v :: p => v.before ++ v.layer.fill (fill cs p) :: v.after

/-- The address where a way ends that begins in a slot. -/
def slot (s : Slot) : Path → Slot
  | [] => s
  | v :: p => slot v.layer.slot p

/-- The outline before the slot where the way ends. -/
def before (s : Slot) : Path → List Mark
  | [] => []
  | v :: p =>
    Field.marksSlot s v.before ++ .field s v.layer.shell :: (v.layer.before ++ before v.layer.slot p)

/-- The outline behind the slot where the way ends. -/
def after (s : Slot) : Path → List Mark
  | [] => []
  | v :: p => after v.layer.slot p ++ (v.layer.after ++ Field.marksAmong s v.after)

/-- Only the outline of the slot where the way ends depends on its contents. -/
theorem marksSlot_fill (cs : List Field) : ∀ (p : Path) (s : Slot),
    Field.marksSlot s (p.fill cs) = p.before s ++ (Field.marksSlot (p.slot s) cs ++ p.after s)
  | [], s => by simp [fill, before, slot, after]
  | v :: p, s => by
    rw [fill, Field.marksSlot, Field.marksAmong_append, Field.marksAmong, Layer.shell_fill,
      Layer.marksInside_fill, marksSlot_fill cs p v.layer.slot]
    simp [before, slot, after, Field.marksSlot]

/-- The slot where a way ends below the root is one of a field on the way. -/
theorem exists_mem_slots (cs : List Field) : ∀ (v : Level) (p : Path) (s : Slot) (index : Nat),
    ∃ e ∈ Field.entriesFrom s index (fill cs (v :: p)), (slot s (v :: p), cs) ∈ e.field.slots
  | v, [], s, index => by
    refine ⟨⟨s, index + v.before.length, v.layer.fill cs⟩, ?_, ?_⟩
    · simp [fill, Field.entriesFrom_append, Field.entriesFrom]
    · cases h : v.layer <;> simp [slot, h, Layer.fill, Layer.slot, Field.slots]
  | v, w :: p, s, index => by
    obtain ⟨e, he, hcs⟩ := exists_mem_slots cs w p v.layer.slot 0
    obtain ⟨es, es', -, hinside⟩ := v.layer.inside_fill
    refine ⟨e, ?_, hcs⟩
    rw [fill, Field.entriesFrom_append, Field.entriesFrom, hinside]
    simp [he]

end Path

namespace Tree

theorem marks_fill (p : Path) (cs : List Field) :
    marks ⟨p.fill cs⟩ = p.before .root ++ (Field.marksSlot (p.slot .root) cs ++ p.after .root) :=
  p.marksSlot_fill cs .root

/-- The slot where a way ends holds its contents. -/
theorem mem_slots_fill (cs : List Field) : ∀ p : Path, (p.slot .root, cs) ∈ slots ⟨p.fill cs⟩
  | [] => List.mem_cons_self ..
  | v :: p => by
    obtain ⟨e, he, hcs⟩ := Path.exists_mem_slots cs v p .root 0
    exact List.mem_cons_of_mem _ (List.mem_flatMap.2 ⟨e.field, List.mem_map_of_mem he, hcs⟩)

/-- One field more or less in a slot is so much more or less in the outline. -/
theorem marks_fill_perm (p : Path) (pre post : List Field) (f : Field) :
    (marks ⟨p.fill (pre ++ f :: post)⟩).Perm
      ((.field (p.slot .root) f.shell :: f.marksInside) ++ marks ⟨p.fill (pre ++ post)⟩) := by
  have hmiddle := List.perm_append_comm_assoc
    (p.before .root ++ Field.marksSlot (p.slot .root) pre)
    (.field (p.slot .root) f.shell :: f.marksInside)
    (Field.marksAmong (p.slot .root) post ++ p.after .root)
  simpa [marks_fill, Field.marksSlot, Field.marksAmong_append, Field.marksAmong] using hmiddle

end Tree

/-! ## Finding a mark -/

/-- The first mark of a slot with a property, by the way to it: the way leads to the slot of the
mark, or to the slot of its field. -/
inductive FirstMark (P : Mark → Prop) (s : Slot) (fs : List Field) : Prop where
  | slot (p : Path) (cs : List Field) (hfill : fs = p.fill cs) (hbefore : ∀ m ∈ p.before s, ¬ P m)
    (h : P (.slot (p.slot s)))
  | field (p : Path) (pre : List Field) (f : Field) (post : List Field)
    (hfill : fs = p.fill (pre ++ f :: post)) (hbefore : ∀ m ∈ p.before s, ¬ P m)
    (hpre : ∀ m ∈ Field.marksSlot (p.slot s) pre, ¬ P m) (h : P (.field (p.slot s) f.shell))

namespace FirstMark

variable {P : Mark → Prop} {s : Slot}

/-- From the slot of a container to the slot in which the container stands. -/
theorem lift {pre post cs : List Field} {l : Layer} (hs : ∀ m ∈ Field.marksSlot s pre, ¬ P m)
    (hshell : ¬ P (.field s l.shell)) (hl : ∀ m ∈ l.before, ¬ P m) (h : FirstMark P l.slot cs) :
    FirstMark P s (pre ++ l.fill cs :: post) := by
  -- what is before the mark: the siblings, the shell, the layer and the rest of the path
  have hbefore : ∀ p : Path, (∀ m ∈ p.before l.slot, ¬ P m) →
      ∀ m ∈ Path.before s (⟨pre, l, post⟩ :: p), ¬ P m := by
    intro p hp
    have hbelow : ∀ m ∈ .field s l.shell :: (l.before ++ p.before l.slot), ¬ P m :=
      List.forall_mem_cons.2 ⟨hshell, List.forall_mem_append.2 ⟨hl, hp⟩⟩
    exact List.forall_mem_append.2 ⟨hs, hbelow⟩
  cases h with
  | slot p ds hfill hp h =>
    subst hfill
    exact .slot (⟨pre, l, post⟩ :: p) ds rfl (hbefore p hp) h
  | field p pre' f post' hfill hp hpre h =>
    subst hfill
    exact .field (⟨pre, l, post⟩ :: p) pre' f post' rfl (hbefore p hp) hpre h

theorem of_among {fs : List Field}
    (hamong : (∀ m ∈ Field.marksSlot s [], ¬ P m) → (∃ m ∈ Field.marksAmong s fs, P m) →
      FirstMark P s fs)
    (h : ∃ m ∈ Field.marksSlot s fs, P m) : FirstMark P s fs := by
  by_cases hs : P (.slot s)
  · exact .slot [] fs rfl (by simp [Path.before]) hs
  · refine hamong (by simpa [Field.marksSlot, Field.marksAmong] using hs) ?_
    exact (List.or_exists_of_exists_mem_cons h).resolve_left hs

end FirstMark

theorem exists_mem_append {P : Mark → Prop} {ms ms' : List Mark} :
    (∃ m ∈ ms ++ ms', P m) ↔ (∃ m ∈ ms, P m) ∨ ∃ m ∈ ms', P m := by
  simp only [List.mem_append, or_and_right, exists_or]

open FormBuilder.Field in
mutual

/-- Inside a field, the first mark stands in one of its slots, and none in the slots before. -/
theorem firstMark_inside (P : Mark → Prop) : ∀ f : Field, (∃ m ∈ f.marksInside, P m) →
    ∃ l cs, f = Layer.fill cs l ∧ (∀ m ∈ l.before, ¬ P m) ∧ FirstMark P l.slot cs
  | .leaf _ _, h => by simp [marksInside] at h
  | .group h n cs, hm =>
    ⟨.group h n, cs, rfl, by simp [Layer.before], .of_among (firstMark_among P _ cs []) hm⟩
  | .repeater h l cs, hm =>
    ⟨.repeater h l, cs, rfl, by simp [Layer.before], .of_among (firstMark_among P _ cs []) hm⟩
  | .tabs h ts, hm => by
    obtain ⟨before, id, label, cs, after, rfl, hbefore, hcs⟩ := firstMark_tabs P h.id ts hm
    exact ⟨.tab h before id label after, cs, rfl, hbefore, hcs⟩
  | .abTest h a b, hm => by
    by_cases ha : ∃ m ∈ marksSlot (.variant h.id .a) a, P m
    · exact ⟨.variantA h b, a, rfl, by simp [Layer.before],
        .of_among (firstMark_among P _ a []) ha⟩
    · have hb : ∃ m ∈ marksSlot (.variant h.id .b) b, P m :=
        (exists_mem_append.1 hm).resolve_left ha
      exact ⟨.variantB h a, b, rfl, fun m hm hP => ha ⟨m, hm, hP⟩,
        .of_among (firstMark_among P _ b []) hb⟩

theorem firstMark_among (P : Mark → Prop) (s : Slot) : ∀ (fs pre : List Field),
    (∀ m ∈ marksSlot s pre, ¬ P m) → (∃ m ∈ marksAmong s fs, P m) → FirstMark P s (pre ++ fs)
  | [], _, _, hm => by simp [marksAmong] at hm
  | f :: fs, pre, hpre, hm => by
    by_cases hf : P (.field s f.shell)
    · exact .field [] pre f fs rfl (by simp [Path.before]) hpre hf
    by_cases hin : ∃ m ∈ f.marksInside, P m
    · obtain ⟨l, cs, rfl, hl, hcs⟩ := firstMark_inside P f hin
      rw [l.shell_fill] at hf
      exact FirstMark.lift hpre hf hl hcs
    · -- nothing of the field has the property, so the field joins those before
      have hpre' : ∀ m ∈ marksSlot s (pre ++ [f]), ¬ P m := by
        rw [marksSlot, marksAmong_append, ← List.cons_append, marksAmong, marksAmong,
          List.append_nil]
        refine List.forall_mem_append.2 ⟨hpre, List.forall_mem_cons.2 ⟨hf, ?_⟩⟩
        exact fun m hm hP => hin ⟨m, hm, hP⟩
      have hfs : ∃ m ∈ marksAmong s fs, P m := by
        rw [marksAmong] at hm
        have hbehind := (List.or_exists_of_exists_mem_cons hm).resolve_left hf
        exact (exists_mem_append.1 hbehind).resolve_left hin
      simpa using firstMark_among P s fs (pre ++ [f]) hpre' hfs

theorem firstMark_tabs (P : Mark → Prop) (id : String) : ∀ ts : List (Tab Field),
    (∃ m ∈ marksTabs id ts, P m) → ∃ before tab label cs after,
      ts = before ++ ⟨tab, label, cs⟩ :: after ∧ (∀ m ∈ marksTabs id before, ¬ P m) ∧
        FirstMark P (.tab id tab) cs
  | [], h => by simp [marksTabs] at h
  | ⟨tab, label, cs⟩ :: ts, hm => by
    by_cases hcs : ∃ m ∈ marksSlot (.tab id tab) cs, P m
    · exact ⟨[], tab, label, cs, ts, rfl, by simp [marksTabs],
        .of_among (firstMark_among P _ cs []) hcs⟩
    · have hts : ∃ m ∈ marksTabs id ts, P m := (exists_mem_append.1 hm).resolve_left hcs
      obtain ⟨before, tab', label', cs', after, rfl, hbefore, h⟩ := firstMark_tabs P id ts hts
      refine ⟨⟨tab, label, cs⟩ :: before, tab', label', cs', after, rfl, ?_, h⟩
      exact List.forall_mem_append.2 ⟨fun m hm hP => hcs ⟨m, hm, hP⟩, hbefore⟩

end

theorem firstMark_slot {P : Mark → Prop} {s : Slot} {fs : List Field}
    (h : ∃ m ∈ Field.marksSlot s fs, P m) : FirstMark P s fs :=
  FirstMark.of_among (firstMark_among P s fs []) h

end FormBuilder
