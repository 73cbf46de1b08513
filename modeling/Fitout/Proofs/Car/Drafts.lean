import Fitout.Car.Edit

/-!
# Changes in place

A change of one field in place fails before it has changed anything, so it comes to the same as
making the changed car and putting it in the stead of the old one (`Car.settle`). The overrides of
an environment are several such changes, and on their way they do change a car that they fail on;
why this is not seen is told in `Fitout.Proofs.Car.Overrides`.
-/

namespace Fitout

open Program (answer)

/-- What a change in place answers and leaves if it comes to making another car: this car, or the
old one if it cannot be made. -/
def Car.settle (car : Car) : Except Error Car → Except Error Unit × Car
  | .ok after => (.ok (), after)
  | .error e => (.error e, car)

namespace Draft

/-- A value is looked at before anything is overwritten. -/
theorem answer_accept_modify {α : Type} (r : Except Rejection α) (put : α → Car → Car)
    (car : Car) :
    answer (do modify (put (← accept r)) : Draft Unit) car =
      car.settle ((r.map (put · car)).mapError .rejected) := by
  rcases r with r | a <;> rfl

theorem answer_overwrite (value : String) (f : Field) (car : Car) :
    answer (overwrite value f) car = car.settle ((car.set f value).mapError .rejected) := by
  cases f with
  | id => exact answer_accept_modify (CarId.parse value) (fun v car ↦ { car with id := v }) car
  | brand =>
    exact answer_accept_modify (Brand.parse value) (fun v car ↦ { car with brand := v }) car
  | engine =>
    exact answer_accept_modify (Member.parse value) (fun v car ↦ { car with engine := v }) car
  | camera =>
    exact answer_accept_modify (Member.parse value) (fun v car ↦ { car with camera := some v }) car
  | smartphone =>
    exact answer_accept_modify (Member.parse value) (fun v car ↦ { car with smartphone := some v })
      car
  | adas =>
    exact answer_accept_modify (Member.parse value) (fun v car ↦ { car with adas := some v }) car

theorem answer_clear (f : Field) (car : Car) :
    answer (clear f) car = car.settle ((car.unset f).mapError .rejected) := by
  cases f <;> rfl

theorem answer_setNamed (name value : String) (car : Car) :
    answer (setNamed name value) car = car.settle (car.setNamed name value) := by
  rw [setNamed, Program.answer_bind, Program.answer_ofExcept, Car.setNamed]
  rcases Car.fieldNamed name with e | f
  · rfl
  · exact answer_overwrite value f car

theorem answer_unsetNamed (name : String) (car : Car) :
    answer (unsetNamed name) car = car.settle (car.unsetNamed name) := by
  rw [unsetNamed, Program.answer_bind, Program.answer_ofExcept, Car.unsetNamed]
  rcases Car.fieldNamed name with e | f
  · rfl
  · exact answer_clear f car

end Draft

end Fitout
