import VolumeNode.Proofs.Concurrent.Solo
import VolumeNode.Proofs.Concurrent.Surroundings

/-!
# Concurrent calls are serial

Calls of volumes that do not share targets, whatever they meet with, answer and leave the world as if
they had been made one at a time, in the order in which they were granted their mutexes.

* `Surroundings.after`: what calls made one at a time leave.
* `exists_inTurn`: calls can be made one at a time, in any order.
* `exists_serial`, `serializable`: every run that has come to its end has the results and the world of
  such a run.
-/

namespace VolumeNode.Node

variable {A B ι : Type}

namespace Surroundings

variable {requests : ι → Request} {c : Config}

/-- The result of a call made by itself, and the world it leaves. -/
def effect (e : Surroundings A B ι) (c : Config) (requests : ι → Request) (i : ι)
    (w : Places A B) : Except VolumeError Unit × Places A B :=
  match plan c (requests i) with
  | .inl (_, work) => alone (e.reading i) 2 work w
  | .inr x => (x, w)

/-- The world that calls made one at a time leave. -/
def after (e : Surroundings A B ι) (c : Config) (requests : ι → Request) (w : Places A B)
    (l : List ι) : Places A B :=
  l.foldl (fun w i => (e.effect c requests i w).2) w

theorem after_append_singleton (e : Surroundings A B ι) (w : Places A B) (l : List ι) (i : ι) :
    e.after c requests w (l ++ [i]) = (e.effect c requests i (e.after c requests w l)).2 := by
  unfold after
  rw [List.foldl_append]
  rfl

theorem after_append (e : Surroundings A B ι) (w : Places A B) (l l' : List ι) :
    e.after c requests w (l ++ l') = e.after c requests (e.after c requests w l) l' :=
  List.foldl_append

end Surroundings

variable {e : Surroundings A B ι} {c : Config} {requests : ι → Request} {i : ι}

theorem effect_of_entering {v : String} {p : Call Unit}
    (h : opening id c (requests i) = .entering v p) (w : Places A B) :
    e.effect c requests i w = alone (e.reading i) 2 p w := by
  unfold opening at h
  unfold Surroundings.effect
  cases hplan : plan c (requests i) with
  | inl x =>
    rw [hplan] at h
    cases h
    rfl
  | inr x =>
    rw [hplan] at h
    cases h

theorem effect_of_ended {x : Except VolumeError Unit} (h : opening id c (requests i) = .ended x)
    (w : Places A B) : e.effect c requests i w = (x, w) := by
  unfold opening at h
  unfold Surroundings.effect
  cases hplan : plan c (requests i) with
  | inl y =>
    rw [hplan] at h
    cases h
  | inr y =>
    rw [hplan] at h
    cases h
    rfl

/-- The work of a call is confined to its volume. -/
theorem confined_of_opening (ha : Apart requests) {v : String} {p : Call Unit}
    (h : opening id c (requests i) = .entering v p) :
    Confined (e.reading i) (Places.SameFor requests) v 2 p := by
  obtain ⟨t, work, hi, hwork, rfl⟩ := work_of_opening h
  exact .of_asks hwork.isAbout (e.reading_local ha hi)

/-- **What the calls keep of each volume**: it is as if those that have been granted their mutex had
been made one at a time. -/
def serialDiscipline (e : Surroundings A B ι) (c : Config) (requests : ι → Request)
    (w₀ : Places A B) (ha : Apart requests) :
    Discipline e.reading fun i => opening id c (requests i) where
  same := Places.SameFor requests
  always _ _ := True
  between v g w := Places.SameFor requests v w (e.after c requests w₀ g)
  result i g r := ∃ a b, g = a ++ i :: b ∧ r = (e.effect c requests i (e.after c requests w₀ a)).1
  same_refl _ := Places.sameFor_refl
  always_congr _ _ := trivial
  between_congr h hw := h.symm.trans hw
  always_of_between _ := trivial
  between_append {i u v p g w} h huv hw := by
    rw [Surroundings.after_append_singleton, effect_of_entering h]
    exact hw.trans ((confined_of_opening ha h).alone_frame Places.sameFor_refl
      (fun h h' => h.trans h') (Ne.symm huv) _)
  result_append {i j g r} _ h := by
    obtain ⟨a, b, rfl, hr⟩ := h
    exact ⟨a, b ++ [j], by simp, hr⟩
  confined h := confined_of_opening ha h
  work {i v p g w} h _ hw := by
    obtain ⟨hresult, hworld⟩ := (confined_of_opening (e := e) ha h).alone_congr hw
    refine ensures_alone.mono fun r w' _ hr => ?_
    obtain ⟨rfl, rfl⟩ : r = (alone (e.reading i) 2 p w).1 ∧ w' = (alone (e.reading i) 2 p w).2 :=
      Prod.ext_iff.1 hr
    refine ⟨?_, g, [], rfl, ?_⟩
    · rw [Surroundings.after_append_singleton, effect_of_entering h]
      exact hworld
    · rw [effect_of_entering h]
      exact hresult

/-- Calls that ask nothing leave the world as it is. -/
theorem after_of_ended {l : List ι} (h : ∀ i ∈ l, ∃ x, opening id c (requests i) = .ended x)
    (w : Places A B) : e.after c requests w l = w := by
  induction l with
  | nil => rfl
  | cons i l ih =>
    obtain ⟨x, hx⟩ := h i List.mem_cons_self
    change e.after c requests (e.effect c requests i w).2 l = w
    rw [effect_of_ended hx]
    exact ih fun j hj => h j (List.mem_cons_of_mem i hj)

section

variable [DecidableEq ι]

/-- The scene and the course of a run in which the calls of a list have been made one at a time, each
taking all its steps in a row. -/
structure InTurn (e : Surroundings A B ι) (c : Config) (requests : ι → Request) (w₀ : Places A B)
    (l : List ι) (s : Scene Action.interface (Places A B) (Except VolumeError Unit) ι)
    (course : Course Action.interface (Places A B) (Except VolumeError Unit) ι) : Prop where
  run : ∃ n : ι → ℕ, Scene.run? e.reading (Scene.start w₀ fun i => call c (requests i))
    (l.flatMap fun i => List.replicate (n i) i) = some s
  shows : Shows e.reading s course
  reaches : Course.Reaches e.reading (Course.start w₀ fun i => opening id c (requests i)) course
  world : course.world = e.after c requests w₀ l
  ended : ∀ {i a b}, l = a ++ i :: b →
    course.stage i = .ended (e.effect c requests i (e.after c requests w₀ a)).1
  untouched : ∀ {i}, i ∉ l → course.stage i = opening id c (requests i) ∧ course.taken i = 0

variable {w₀ : Places A B} {l : List ι}
  {s : Scene Action.interface (Places A B) (Except VolumeError Unit) ι}
  {course : Course Action.interface (Places A B) (Except VolumeError Unit) ι}

omit [DecidableEq ι] in
theorem shows_calls (e : Surroundings A B ι) (c : Config) (w₀ : Places A B) (ha : Apart requests) :
    Shows e.reading (Scene.start w₀ fun i => call c (requests i))
      (Course.start w₀ fun i => opening id c (requests i)) :=
  shows_start fun i => follows_call (e.readsLocks i) fun hi hwork =>
    .of_asks hwork.isAbout (e.reading_local ha hi)

theorem inTurn_nil (e : Surroundings A B ι) (c : Config) (w₀ : Places A B) (ha : Apart requests) :
    InTurn e c requests w₀ [] (Scene.start w₀ fun i => call c (requests i))
      (Course.start w₀ fun i => opening id c (requests i)) where
  run := ⟨fun _ => 0, rfl⟩
  shows := shows_calls e c w₀ ha
  reaches := .refl
  world := rfl
  ended h := absurd h.symm (by simp)
  untouched _ := ⟨rfl, rfl⟩

/-- Between calls made one at a time none works. -/
theorem InTurn.not_working (h : InTurn e c requests w₀ l s course) (i : ι) (v : String) (m : Ticket)
    (q : Call Unit) : course.stage i ≠ .working v m q := by
  by_cases hi : i ∈ l
  · obtain ⟨a, b, hab⟩ := List.append_of_mem hi
    rw [h.ended hab]
    simp
  · rw [(h.untouched hi).1]
    rcases opening_phases id c (requests i) with ⟨v, p, h⟩ | ⟨x, h⟩ <;> simp [h]

/-- A call that has not begun can be made next, and takes all its steps. -/
theorem InTurn.next (h : InTurn e c requests w₀ l s course) (ha : Apart requests) (hi : i ∉ l) :
    ∃ course', Solo e.reading i course course' ∧
      course'.stage i = .ended (e.effect c requests i course.world).1 ∧
      course'.world = (e.effect c requests i course.world).2 := by
  obtain ⟨hstage, htaken⟩ := h.untouched hi
  rcases opening_phases id c (requests i) with ⟨v, p, hopen⟩ | ⟨x, hopen⟩
  · rw [effect_of_entering hopen]
    exact solo (h.reaches.contest fun j => opening_idle) h.not_working (hstage.trans hopen) htaken
      (confined_of_opening ha hopen)
  · rw [effect_of_ended hopen]
    exact ⟨course, .refl, hstage.trans hopen, rfl⟩

/-- **One call more.** -/
theorem InTurn.append (h : InTurn e c requests w₀ l s course) (ha : Apart requests) (hi : i ∉ l) :
    ∃ s' course', InTurn e c requests w₀ (l ++ [i]) s' course' := by
  obtain ⟨course', hsolo, hstage, hworld⟩ := h.next ha hi
  obtain ⟨k, s', hrun', hshows⟩ := h.shows.lift_solo hsolo
  obtain ⟨n, hrun⟩ := h.run
  refine ⟨s', course', ⟨Function.update n i k, ?_⟩, hshows, h.reaches.trans hsolo.reaches, ?_, ?_, ?_⟩
  · -- `i` has no steps among those of `l`
    have hl : l.flatMap (fun j => List.replicate (Function.update n i k j) j) =
        l.flatMap fun j => List.replicate (n j) j := by
      refine List.flatMap_congr fun j hj => ?_
      rw [Function.update_of_ne]
      rintro rfl
      exact hi hj
    rw [List.flatMap_append, hl, Scene.run?_append, hrun, Option.bind_some, List.flatMap_singleton,
      Function.update_self]
    exact hrun'
  · rw [hworld, h.world, Surroundings.after_append_singleton]
  · intro j a b hab
    -- `j` is the call made last, or has been made in `l`
    rcases List.eq_nil_or_concat b with rfl | ⟨b, x, rfl⟩
    · obtain ⟨rfl, hij⟩ := List.append_inj' hab rfl
      cases hij
      rw [hstage, h.world]
    · have hlast : l = a ++ j :: b ∧ [i] = [x] := List.append_inj' (by simpa using hab) rfl
      have hji : j ≠ i := by
        rintro rfl
        exact hi (hlast.1 ▸ List.mem_append_right _ List.mem_cons_self)
      rw [(hsolo.others hji).1]
      exact h.ended hlast.1
  · intro j hj
    have hji : j ≠ i := by
      rintro rfl
      exact hj (List.mem_append_right _ (List.mem_singleton_self _))
    rw [(hsolo.others hji).1, (hsolo.others hji).2]
    exact h.untouched fun hl => hj (List.mem_append_left _ hl)

/-- **Calls can be made one at a time**, in any order. -/
theorem exists_inTurn (e : Surroundings A B ι) (c : Config) (w₀ : Places A B) (ha : Apart requests)
    (hl : l.Nodup) : ∃ s course, InTurn e c requests w₀ l s course := by
  induction l using List.reverseRecOn with
  | nil => exact ⟨_, _, inTurn_nil e c w₀ ha⟩
  | append_singleton l i ih =>
    obtain ⟨hl, -, hdisjoint⟩ := List.nodup_append.1 hl
    obtain ⟨s, course, h⟩ := ih hl
    exact h.append ha fun hi => hdisjoint i hi i (List.mem_singleton_self i) rfl

omit [DecidableEq ι] in
/-- Of calls that have all ended, those that have not been granted a mutex have asked nothing. -/
theorem opening_of_not_granted {d : Discipline e.reading fun i => opening id c (requests i)}
    (h : d.Holds course) (hended : ∀ i, ∃ r, course.stage i = .ended r) (hi : i ∉ course.granted) :
    ∃ x, opening id c (requests i) = .ended x := by
  obtain ⟨r, hr⟩ := hended i
  have hknows := h.knows i
  rw [hr] at hknows
  cases hknows with
  | ended _ hg => exact absurd hg hi
  | idle hf => exact ⟨r, hf⟩

/-- **A run that has come to its end is serial**: its calls have the results, and have left the world,
of calls made one at a time, those that use a mutex in the order in which they were granted it. -/
theorem exists_serial [Fintype ι] (ha : Apart requests) {order : List ι}
    (h : Scene.run? e.reading (Scene.start w₀ fun i => call c (requests i)) order = some s)
    (hstill : Scene.Still e.reading s) :
    ∃ serial : List ι, serial.Nodup ∧ (∀ i, i ∈ serial) ∧ s.granted.Sublist serial ∧
      s.world = e.after c requests w₀ serial ∧
      ∀ i, ∃ a b, serial = a ++ i :: b ∧
        s.result? i = some (e.effect c requests i (e.after c requests w₀ a)).1 := by
  obtain ⟨course, hreaches, hshows⟩ := (shows_calls e c w₀ ha).reaches h
  have hholds := (serialDiscipline e c requests w₀ ha).holds
    (fun i => opening_phases id c (requests i)) (fun _ => Places.sameFor_refl w₀) hreaches
  have hended := hshows.ended_of_still (hreaches.contest fun _ => opening_idle) hstill
  -- the calls that were granted their mutex in that order, then those that have asked nothing
  set rest := Finset.univ.toList.filter (· ∉ course.granted) with hrest
  have hmem : ∀ i, i ∈ rest ↔ i ∉ course.granted := by
    intro i
    rw [hrest]
    simp
  refine ⟨course.granted ++ rest, ?_, ?_, ?_, ?_, ?_⟩
  · refine hholds.nodup.append ((Finset.nodup_toList _).filter _) ?_
    intro i hi hi'
    exact (hmem i).1 hi' hi
  · intro i
    by_cases hi : i ∈ course.granted
    · exact List.mem_append_left _ hi
    · exact List.mem_append_right _ ((hmem i).2 hi)
  · rw [hshows.granted]
    exact List.sublist_append_left ..
  · -- no call works any more, so each volume is as its calls have left it
    have hworld : course.world = e.after c requests w₀ course.granted := by
      refine Places.eq_of_sameFor ha fun v => hholds.between v ?_
      intro i m p hi
      obtain ⟨r, hr⟩ := hended i
      rw [hr] at hi
      cases hi
    rw [hshows.world, hworld, Surroundings.after_append]
    exact (after_of_ended
      (fun i hi => opening_of_not_granted hholds hended ((hmem i).1 hi)) _).symm
  · intro i
    obtain ⟨r, hr⟩ := hended i
    rw [hshows.result?_of_ended hr]
    have hknows := hholds.knows i
    rw [hr] at hknows
    cases hknows with
    | ended _ hg hresult =>
      obtain ⟨a, b, hab, rfl⟩ := hresult
      exact ⟨a, b ++ rest, by rw [hab]; simp, rfl⟩
    | idle hf hg =>
      obtain ⟨a, b, hab⟩ := List.append_of_mem ((hmem i).2 hg)
      exact ⟨course.granted ++ a, b, by rw [hab]; simp, by rw [effect_of_ended hf]⟩

/-- **Concurrent calls are serializable.** Let calls of volumes that do not share targets go on in any
order, whatever they meet with. The run ends, and when no call can go on each has ended, with the
result that it has when the calls are made one at a time in some order that keeps the order in which
they were granted their mutexes; and the world is the one that is left then. -/
theorem serializable [Fintype ι] (e : Surroundings A B ι) (c : Config) (requests : ι → Request)
    (w₀ : Places A B) (ha : Apart requests) {order : List ι}
    {s : Scene Action.interface (Places A B) (Except VolumeError Unit) ι}
    (h : Scene.run? e.reading (Scene.start w₀ fun i => call c (requests i)) order = some s) :
    order.length ≤ 10 * Fintype.card ι ∧
      (Scene.Still e.reading s → ∃ serial : List ι,
        serial.Nodup ∧ (∀ i, i ∈ serial) ∧ s.granted.Sublist serial ∧
        ∃ (n : ι → ℕ) (s' : Scene Action.interface (Places A B) (Except VolumeError Unit) ι),
          Scene.run? e.reading (Scene.start w₀ fun i => call c (requests i))
            (serial.flatMap fun i => List.replicate (n i) i) = some s' ∧
          s'.world = s.world ∧
          ∀ i, ∃ r, s.result? i = some r ∧ s'.result? i = some r) := by
  refine ⟨Scene.length_le_of_endsWithin (fun i => call_endsWithin c (requests i)) h, ?_⟩
  intro hstill
  obtain ⟨serial, hnodup, hmem, hgranted, hworld, hresults⟩ := exists_serial ha h hstill
  obtain ⟨s', course', hturn⟩ := exists_inTurn e c w₀ ha hnodup
  obtain ⟨n, hrun⟩ := hturn.run
  refine ⟨serial, hnodup, hmem, hgranted, n, s', hrun, ?_, ?_⟩
  · rw [hturn.shows.world, hturn.world, hworld]
  · intro i
    obtain ⟨a, b, hab, hresult⟩ := hresults i
    exact ⟨_, hresult, hturn.shows.result?_of_ended (hturn.ended hab)⟩

end

/-- A call that unpublishes a volume begins while another publishes it, and waits. It is as if it had
been made after the other. -/
theorem serializable_publish_unpublish :
    let view := (faultless fun (_ : Bool) _ _ => [47, 114]).reading
    let requests : Bool → Request := fun i =>
      if i then .publish
        { volumeId := "v", targetPath := "/t", capability := some {}
          volumeContext := Attributes.ofList [("image", "i")] }
      else .unpublish { volumeId := "v", targetPath := "/t" }
    let start := Scene.start ⟨fun _ => ⟨false, []⟩, fun _ => ⟨none, []⟩⟩ fun i => call {} (requests i)
    ∃ s, Scene.run? view start ([true, false] ++ List.replicate 7 true ++ [false, true] ++
        List.replicate 5 false) = some s ∧
      Scene.Still view s ∧ s.granted = [true, false] ∧
      ∃ (n : Bool → ℕ) (s' : Scene _ _ _ Bool),
        Scene.run? view start (List.replicate (n true) true ++ List.replicate (n false) false) =
          some s' ∧
        s'.world = s.world ∧ ∀ i, ∃ r, s.result? i = some r ∧ s'.result? i = some r := by
  intro view requests start
  have hrun : (Scene.run? view start ([true, false] ++ List.replicate 7 true ++ [false, true] ++
      List.replicate 5 false)).map (fun s => (s.granted, (Scene.turn? view s true).isNone,
        (Scene.turn? view s false).isNone)) = some ([true, false], true, true) := by
    decide +kernel
  obtain ⟨s, hs, hend⟩ := Option.map_eq_some_iff.1 hrun
  obtain ⟨hgranted, hpublish, hunpublish⟩ : s.granted = [true, false] ∧
      (Scene.turn? view s true).isNone = true ∧ (Scene.turn? view s false).isNone = true := by
    simpa using hend
  have hstill : Scene.Still view s := by
    intro i
    cases i with
    | true => exact Option.isNone_iff_eq_none.1 hpublish
    | false => exact Option.isNone_iff_eq_none.1 hunpublish
  have hplace : ∀ i, place? (requests i) = some ("v", "/t") := by
    intro i
    cases i <;> rfl
  have ha : Apart requests := by
    intro i j u v t hi hj
    rw [hplace] at hi hj
    cases hi
    cases hj
    rfl
  obtain ⟨-, hserial⟩ := serializable _ {} requests _ ha hs
  obtain ⟨serial, hnodup, -, hsub, n, s', hs', hworld, hresults⟩ := hserial hstill
  rw [hgranted] at hsub
  have heq := hsub.eq_of_length_le (hnodup.length_le_card)
  rw [← heq] at hs'
  exact ⟨s, hs, hstill, hgranted, n, s', by simpa using hs', hworld, hresults⟩

end VolumeNode.Node
