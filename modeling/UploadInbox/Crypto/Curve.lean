import UploadInbox.Crypto.Rsa

/-!
# Signatures on elliptic curves

The two curves in use have the form y² = x³ − 3x + b over a prime field. Points are triples whose
first two coordinates are scaled by the square and the cube of the third; the point at infinity has
the third coordinate zero.
-/
namespace UploadInbox

/-- A curve with a point that generates a group of prime order. -/
structure Curve where
  /-- The number of octets of a coordinate. -/
  size : Nat
  prime : Nat
  b : Nat
  order : Nat
  generatorX : Nat
  generatorY : Nat

namespace Curve

def p256 : Curve where
  size := 32
  prime := 0xFFFFFFFF00000001000000000000000000000000FFFFFFFFFFFFFFFFFFFFFFFF
  b := 0x5AC635D8AA3A93E7B3EBBD55769886BC651D06B0CC53B0F63BCE3C3E27D2604B
  order := 0xFFFFFFFF00000000FFFFFFFFFFFFFFFFBCE6FAADA7179E84F3B9CAC2FC632551
  generatorX := 0x6B17D1F2E12C4247F8BCE6E563A440F277037D812DEB33A0F4A13945D898C296
  generatorY := 0x4FE342E2FE1A7F9B8EE7EB4A7C0F9E162BCE33576B315ECECBB6406837BF51F5

def p384 : Curve where
  size := 48
  prime := 0xFFFFFFFFFFFFFFFFFFFFFFFFFFFFFFFFFFFFFFFFFFFFFFFFFFFFFFFFFFFFFFFEFFFFFFFF0000000000000000FFFFFFFF
  b := 0xB3312FA7E23EE7E4988E056BE3F82D19181D9C6EFE8141120314088F5013875AC656398D8A2ED19D2A85C8EDD3EC2AEF
  order := 0xFFFFFFFFFFFFFFFFFFFFFFFFFFFFFFFFFFFFFFFFFFFFFFFFC7634D81F4372DDF581A0DB248B0A77AECEC196ACCC52973
  generatorX := 0xAA87CA22BE8B05378EB1C71EF320AD746E1D3B628BA79B9859F741E082542A385502F25DBF55296C3A545E3872760AB7
  generatorY := 0x3617DE4A96262C6F5D9E98BF9292DC29F8F41DBD289A147CE9DA3113B5F0B8C00A60B1CE1D7E819D7A431D7C90EA0E5F

structure Point where
  x : Nat
  y : Nat
  z : Nat

def infinity : Point := ⟨1, 1, 0⟩

def sub (curve : Curve) (a b : Nat) : Nat := (a + curve.prime - b % curve.prime) % curve.prime

def double (curve : Curve) (p : Point) : Point :=
  if p.z = 0 then infinity
  else
    let delta := p.z * p.z % curve.prime
    let gamma := p.y * p.y % curve.prime
    let beta := p.x * gamma % curve.prime
    let alpha := 3 * curve.sub p.x delta * (p.x + delta) % curve.prime
    let x := curve.sub (alpha * alpha % curve.prime) (8 * beta)
    let z := 2 * p.y * p.z % curve.prime
    let y := curve.sub (alpha * curve.sub (4 * beta % curve.prime) x % curve.prime)
      (8 * gamma * gamma)
    ⟨x, y, z⟩

def add (curve : Curve) (p q : Point) : Point :=
  if p.z = 0 then q
  else if q.z = 0 then p
  else
    let zp := p.z * p.z % curve.prime
    let zq := q.z * q.z % curve.prime
    let up := p.x * zq % curve.prime
    let uq := q.x * zp % curve.prime
    let sp := p.y * zq * q.z % curve.prime
    let sq := q.y * zp * p.z % curve.prime
    if up = uq then if sp = sq then curve.double p else infinity
    else
      let h := curve.sub uq up
      let r := curve.sub sq sp
      let hh := h * h % curve.prime
      let hhh := h * hh % curve.prime
      let v := up * hh % curve.prime
      let x := curve.sub (r * r % curve.prime) (hhh + 2 * v)
      let y := curve.sub (r * curve.sub v x % curve.prime) (sp * hhh)
      ⟨x, y, h * p.z * q.z % curve.prime⟩

/-- A multiple of a point, over the binary digits of the factor. -/
def multiply (curve : Curve) (factor : Nat) (p : Point) : Point :=
  (Nat.toDigits 2 factor).foldl (fun sum bit =>
    let sum := curve.double sum
    if bit = '1' then curve.add sum p else sum) infinity

/-- The first coordinate of a point that is not at infinity, without its scale. -/
def xOf? (curve : Curve) (p : Point) : Option Nat :=
  if p.z = 0 then none
  else
    let inverse := powMod curve.prime p.z (curve.prime - 2)
    some (p.x * inverse * inverse % curve.prime)

def ySquared (curve : Curve) (x : Nat) : Nat :=
  curve.sub ((x * x * x + curve.b) % curve.prime) (3 * x)

/-- The point of encoded coordinates, the second of which may be given by its parity alone. -/
def point? (curve : Curve) (bytes : Bytes) : Option Point :=
  match bytes with
  | [] => none
  | tag :: rest =>
    let x := Sha2.ofBigEndian (rest.take curve.size)
    if curve.prime ≤ x then none
    else if tag = 4 ∧ rest.length = 2 * curve.size then
      let y := Sha2.ofBigEndian (rest.drop curve.size)
      if y < curve.prime ∧ y * y % curve.prime = curve.ySquared x then some ⟨x, y, 1⟩ else none
    else if (tag = 2 ∨ tag = 3) ∧ rest.length = curve.size then
      let root := powMod curve.prime (curve.ySquared x) ((curve.prime + 1) / 4)
      if root * root % curve.prime = curve.ySquared x then
        some ⟨x, if root % 2 = tag.toNat % 2 then root else (curve.prime - root) % curve.prime, 1⟩
      else none
    else none

/-- Whether a signature, two numbers one after the other, is one of a digest under a key. -/
def verify (curve : Curve) (key : Point) (digest signature : Bytes) : Bool :=
  let r := Sha2.ofBigEndian (signature.take curve.size)
  let s := Sha2.ofBigEndian (signature.drop curve.size)
  if signature.length = 2 * curve.size ∧ 0 < r ∧ r < curve.order ∧ 0 < s ∧ s < curve.order then
    let inverse := powMod curve.order s (curve.order - 2)
    let first := Sha2.ofBigEndian (digest.take curve.size) * inverse % curve.order
    let second := r * inverse % curve.order
    let sum := curve.add (curve.multiply first ⟨curve.generatorX, curve.generatorY, 1⟩)
      (curve.multiply second key)
    (curve.xOf? sum).map (· % curve.order) == some r
  else false

end Curve
end UploadInbox
