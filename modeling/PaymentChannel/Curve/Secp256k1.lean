/-!
# The curve secp256k1

The points `y² = x³ + 7` over the field of `fieldSize` elements. They form a group of prime order
`groupOrder`, generated by `Point.generator`. Sums are taken in Jacobian coordinates, in which
`(x, y, z)` stands for `(x / z², y / z³)` and every triple with `z = 0` for the neutral element,
so that only `Point.toAffine` has to divide.
-/

namespace PaymentChannel.Secp256k1

/-- The number of elements of the field of coordinates. -/
abbrev fieldSize : Nat := 0xfffffffffffffffffffffffffffffffffffffffffffffffffffffffefffffc2f

/-- The number of points of the curve. -/
abbrev groupOrder : Nat := 0xfffffffffffffffffffffffffffffffebaaedce6af48a03bbfd25e8cd0364141

/-- Coordinates of points. -/
abbrev Coordinate := Fin fieldSize

/-- Multiples of points are counted modulo the order of the group. -/
abbrev Scalar := Fin groupOrder

/-- The coordinate that a number stands for. -/
def Coordinate.ofNat (n : Nat) : Coordinate := Fin.ofNat fieldSize n

/-- The scalar that a number stands for. -/
def Scalar.ofNat (n : Nat) : Scalar := Fin.ofNat groupOrder n

/-- The lowest 256 bits of a number, highest first. -/
def bits (e : Nat) : List Bool := (List.range 256).reverse.map e.testBit

/-- The product of `one` and `e` times `x`, for an `e` of at most 256 bits. -/
def power {α : Type} [Mul α] (one x : α) (e : Nat) : α :=
  (bits e).foldl (fun y b => if b then y * y * x else y * y) one

/-- The inverse of a coordinate other than zero. -/
def Coordinate.inverse (x : Coordinate) : Coordinate := power 1 x (fieldSize - 2)

/-- The inverse of a scalar other than zero. -/
def Scalar.inverse (x : Scalar) : Scalar := power 1 x (groupOrder - 2)

/-- A point in Jacobian coordinates. -/
structure Point where
  x : Coordinate
  y : Coordinate
  z : Coordinate

/-- A point other than the neutral element, by its two coordinates. -/
structure AffinePoint where
  x : Coordinate
  y : Coordinate
  deriving DecidableEq

namespace Point

/-- The neutral element. -/
def neutral : Point := ⟨1, 1, 0⟩

/-- The point with the given coordinates. -/
def ofAffine (p : AffinePoint) : Point := ⟨p.x, p.y, 1⟩

/-- The point of which every other is a multiple. -/
def generator : Point := .ofAffine
  ⟨0x79be667ef9dcbbac55a06295ce870b07029bfcdb2dce28d959f2815b16f81798,
    0x483ada7726a3c4655da4fbfc0e1108a8fd17b448a68554199c47d08ffb10d4b8⟩

/-- The coordinates of a point other than the neutral element. -/
def toAffine (p : Point) : Option AffinePoint :=
  if p.z = 0 then none
  else
    let w := Coordinate.inverse p.z
    let w2 := w * w
    some ⟨p.x * w2, p.y * w2 * w⟩

/-- The sum of a point with itself. -/
def double (p : Point) : Point :=
  let a := p.x * p.x
  let b := p.y * p.y
  let c := b * b
  let d := (p.x + b) * (p.x + b) - a - c
  let d := d + d
  let e := a + a + a
  let c8 := let c2 := c + c; let c4 := c2 + c2; c4 + c4
  let x := e * e - d - d
  ⟨x, e * (d - x) - c8, (p.y + p.y) * p.z⟩

/-- The sum of two points. -/
def add (p q : Point) : Point :=
  if p.z = 0 then q
  else if q.z = 0 then p
  else
    let pz2 := p.z * p.z
    let qz2 := q.z * q.z
    let u₁ := p.x * qz2
    let u₂ := q.x * pz2
    let s₁ := p.y * qz2 * q.z
    let s₂ := q.y * pz2 * p.z
    -- Two points with the same first coordinate are the same or opposite.
    if u₁ = u₂ then
      if s₁ = s₂ then p.double else neutral
    else
      let h := u₂ - u₁
      let r := s₂ - s₁
      let h2 := h * h
      let h3 := h2 * h
      let v := u₁ * h2
      let x := r * r - h3 - v - v
      ⟨x, r * (v - x) - s₁ * h3, h * p.z * q.z⟩

/-- A multiple of a point. -/
def multiple (k : Scalar) (p : Point) : Point :=
  (bits k.val).foldl (fun q b => if b then q.double.add p else q.double) neutral

end Point

/-- The point with the given first coordinate and a second one that is odd or even as told. -/
def AffinePoint.withX (x : Coordinate) (odd : Bool) : Option AffinePoint :=
  let square := x * x * x + 7
  -- The size of the field is 3 modulo 4, so that this power is a root if there is one.
  let y := power 1 square ((fieldSize + 1) / 4)
  if y * y ≠ square then none
  else if (y.val % 2 == 1) == odd then some ⟨x, y⟩
  else some ⟨x, -y⟩

end PaymentChannel.Secp256k1
