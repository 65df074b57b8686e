/-! This file holds the packaged vector table, with known conversions, texts and roundings. -/

namespace HalfPrecision.Vectors

/-- The packaged document. -/
def packagedDocument : String :=
"to_half:
  '0.0': 0x0000
  '-0.0': 0x8000
  'nan': 0x7e00
  '-nan': 0x7e00
  'inf': 0x7c00
  '-inf': 0xfc00
  '1.0009765625': 0x3c01
  '-2.0': 0xc000
  '6.10352e-5': 0x0400
  '65504.0': 0x7bff
  '0.3333333333': 0x3555
  '6.09756e-5': 0x03ff
  '5.96046e-8': 0x0001
  '-6.09756e-5': 0x83ff
  '-5.96046e-8': 0x8001
  '5.96046e-9': 0x0000
  '-5.96046e-9': 0x8000
  '65519.0': 0x7bff
  '65519.9': 0x7bff
  '65520.0': 0x7c00
  '-65520.0': 0xfc00
  '2049.0': 0x6800
  '4098.0': 0x6c00
  '8196.0': 0x7000
  '16392.0': 0x7400
  '32784.0': 0x7800
  '1e300': 0x7c00
  '-1e-300': 0x8000

to_half_raw:
  0x39fff000: 0x1000
  0x387fe000: 0x0400
  0x7fc00001: 0x7e00
  0xffffffff: 0x7e00
  0x00000001: 0x0000
  0x80000001: 0x8000
  0x33000000: 0x0000
  0x33000001: 0x0001
  0x33400000: 0x0001
  0x33c00000: 0x0002
  0x477fe000: 0x7bff
  0x477fefff: 0x7bff
  0x477ff000: 0x7c00

hex:
  0x7e00: 'NaN'
  0x7c01: 'NaN'
  0x7c00: 'Infinity'
  0xfc00: '-Infinity'
  0x0000: '0x0.0p0'
  0x8000: '-0x0.0p0'
  0x3c00: '0x1.0p0'
  0xbc00: '-0x1.0p0'
  0x4000: '0x1.0p1'
  0x5c00: '0x1.0p8'
  0x3800: '0x1.0p-1'
  0x3400: '0x1.0p-2'
  0x3e00: '0x1.2p0'
  0x3c10: '0x1.10p0'
  0x7bff: '0x1.3ffp15'
  0xfbff: '-0x1.3ffp15'
  0x0001: '0x0.1p-14'
  0x0200: '0x0.2p-14'
  0x0400: '0x1.0p-14'

ceil:
  '0.2': 0x3c00
  '-0.2': 0x8000
  '0.7': 0x3c00
  '-0.7': 0x8000
  '124.7': 0x57d0
  '-124.7': 0xd7c0
  '-0.0': 0x8000
  '-65504.0': 0xfbff
  'inf': 0x7c00

floor:
  '0.2': 0x0000
  '-0.2': 0xbc00
  '0.7': 0x0000
  '-0.7': 0xbc00
  '124.7': 0x57c0
  '-124.7': 0xd7d0
  '-inf': 0xfc00

trunc:
  '0.7': 0x0000
  '-0.7': 0x8000
  '124.7': 0x57c0
  '-124.2': 0xd7c0

rint:
  '0.5': 0x0000
  '-0.5': 0x8000
  '1.5': 0x4000
  '2.5': 0x4000
  '-2.5': 0xc000
  '3.5': 0x4400
  '0.7': 0x3c00
  '-0.7': 0xbc00
  '124.2': 0x57c0
  '124.7': 0x57d0

round_half_away:
  '0.5': 0x3c00
  '-2.5': 0xc200
  '2.4': 0x4000
"

end HalfPrecision.Vectors
