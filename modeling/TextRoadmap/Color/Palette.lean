/-
TextRoadmap/Color/Palette.lean

The palette: ten families of hues, each a ramp of twenty shades from the
darkest to the lightest.

An epic takes the middle shade of its family.  The projects below it walk
away from the middle, two shades for every task and five for every level of
depth, around the ramp.  Backgrounds take the lightest shade.
-/
import TextRoadmap.Color.Basic

namespace TextRoadmap.Palette

/-- The color with the given six hexadecimal digits as one number. -/
def ofNumber (n : Nat) : Color :=
  ⟨UInt8.ofNat (n / 65536), UInt8.ofNat (n / 256), UInt8.ofNat n⟩

/-- The number of hue families. -/
def familyCount : Nat := 10

/-- The number of shades of every family. -/
def shadeCount : Nat := 20

/-- The hue families, darkest shade first. -/
def families : List (List Nat) :=
  [ -- Vivid cerulean
   [0x001016, 0x001f2c, 0x002e41, 0x003d57, 0x004c6c, 0x005b82,
    0x006a97, 0x0079ad, 0x0088c2, 0x0097d8, 0x00a6ed, 0x17aeee,
    0x2eb6f0, 0x45bef1, 0x5cc6f3, 0x73cef5, 0x8bd6f6, 0xa2def8,
    0xb9e6fa, 0xd0eefb],
   -- Vivid raspberry
   [0x18000b, 0x2f0015, 0x460020, 0x5d002a, 0x740034, 0x8c003f,
    0xa30049, 0xba0053, 0xd1005e, 0xe80068, 0xff0072, 0xff177e,
    0xff2e8b, 0xff4598, 0xff5ca5, 0xff73b2, 0xff8bbe, 0xffa2cb,
    0xffb9d8, 0xffd0e5],
   -- Fluorescent orange
   [0x181200, 0x2f2300, 0x463500, 0x5d4600, 0x745700, 0x8c6900,
    0xa37a00, 0xba8b00, 0xd19d00, 0xe8ae00, 0xffbf00, 0xffc417,
    0xffca2e, 0xffd045, 0xffd65c, 0xffdc73, 0xffe18b, 0xffe7a2,
    0xffedb9, 0xfff3d0],
   -- Caribbean green
   [0x01140f, 0x02271e, 0x023b2c, 0x034e3b, 0x036249, 0x047558,
    0x048966, 0x059c75, 0x05b083, 0x06c392, 0x06d6a0, 0x1cd9a8,
    0x33ddb1, 0x49e1b9, 0x60e4c2, 0x77e8cb, 0x8decd3, 0xa4f0dc,
    0xbbf3e5, 0xd1f7ed],
   -- Electric purple
   [0x120017, 0x24002e, 0x350045, 0x47005c, 0x590073, 0x6a0089,
    0x7c00a0, 0x8e00b7, 0x9f00ce, 0xb100e5, 0xc200fb, 0xc717fb,
    0xcd2efb, 0xd245fc, 0xd85cfc, 0xdd73fc, 0xe38bfd, 0xe8a2fd,
    0xeeb9fd, 0xf3d0fe],
   -- Orioles orange
   [0x170803, 0x2d0f06, 0x441708, 0x5a1e0b, 0x70250e, 0x872d10,
    0x9d3413, 0xb33b16, 0xca4318, 0xe04a1b, 0xf6511d, 0xf66031,
    0xf77046, 0xf8805a, 0xf9906f, 0xfaa083, 0xfaaf98, 0xfbbfac,
    0xfccfc1, 0xfddfd5],
   -- Prussian blue
   [0x020408, 0x030810, 0x040c17, 0x05101f, 0x061427, 0x08182e,
    0x091d36, 0x0a213e, 0x0b2545, 0x0c284d, 0x0d2c54, 0x233f63,
    0x395273, 0x4f6582, 0x657892, 0x7b8ba1, 0x919fb1, 0xa7b2c0,
    0xbdc5d0, 0xd3d8df],
   -- UCLA gold
   [0x181100, 0x2f2100, 0x463200, 0x5d4200, 0x745200, 0x8c6300,
    0xa37300, 0xba8300, 0xd19400, 0xe8a400, 0xffb400, 0xffba17,
    0xffc12e, 0xffc845, 0xffcf5c, 0xffd673, 0xffdc8b, 0xffe3a2,
    0xffeab9, 0xfff1d0],
   -- Apple green
   [0x0c1100, 0x182200, 0x233300, 0x2f4300, 0x3a5400, 0x466500,
    0x517600, 0x5d8600, 0x689700, 0x74a800, 0x7fb800, 0x8abe17,
    0x96c42e, 0xa1cb45, 0xadd15c, 0xb9d873, 0xc4de8b, 0xd0e5a2,
    0xdcebb9, 0xe7f2d0],
   -- Eerie black
   [0x030303, 0x050505, 0x070707, 0x090909, 0x0b0b0b, 0x0d0d0d,
    0x0f0f0f, 0x111111, 0x131313, 0x151515, 0x171717, 0x2c2c2c,
    0x414141, 0x565656, 0x6b6b6b, 0x808080, 0x959595, 0xaaaaaa,
    0xbfbfbf, 0xd4d4d4]]

/-- Ten families of twenty shades. -/
example : families.map List.length = List.replicate familyCount shadeCount := by decide

/-- The color of milestones to which no project lends one. -/
def neutral : Color := ofNumber 0xa9a9a9

/-- The color at a place of the palette, where families and shades repeat. -/
def colorAt (family shade : Nat) : Color :=
  ofNumber ((families.getD (family % familyCount) []).getD (shade % shadeCount) 0)

/-- The shade of a task at the given depth: 10 for epics, and for all others
10 less two for every task and five for every level after the first. -/
def shadeOf (task : Nat) (depth : Nat) : Nat :=
  if depth = 0 then 10
  else ((10 - 2 * (task : Int) - 5 * ((depth : Int) - 1)) % 20).toNat

/-- The color of a project, by the number of its epic, its own number within
the epic and its depth. -/
def foreground (epic task depth : Nat) : Color := colorAt epic (shadeOf task depth)

/-- The color behind an epic. -/
def background (epic : Nat) : Color := colorAt epic (shadeCount - 1)

end TextRoadmap.Palette
