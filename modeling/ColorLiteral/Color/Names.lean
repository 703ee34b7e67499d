import ColorLiteral.Text.Basic

/-!
# Color names

The color keywords of style sheets, each under the three bytes of its color.
-/

namespace ColorLiteral.ColorName

/-- The named colors, in the order of their bytes; of two names for one color, one is listed. -/
def table : List (Nat × String) :=
  [(0x000000, "black"), (0x000080, "navy"), (0x00008B, "darkblue"), (0x0000CD, "mediumblue"),
   (0x0000FF, "blue"), (0x006400, "darkgreen"), (0x008000, "green"), (0x008080, "teal"),
   (0x008B8B, "darkcyan"), (0x00BFFF, "deepskyblue"), (0x00CED1, "darkturquoise"),
   (0x00FA9A, "mediumspringgreen"), (0x00FF00, "lime"), (0x00FF7F, "springgreen"),
   (0x00FFFF, "cyan"), (0x191970, "midnightblue"), (0x1E90FF, "dodgerblue"),
   (0x20B2AA, "lightseagreen"), (0x228B22, "forestgreen"), (0x2E8B57, "seagreen"),
   (0x2F4F4F, "darkslategray"), (0x32CD32, "limegreen"), (0x3CB371, "mediumseagreen"),
   (0x40E0D0, "turquoise"), (0x4169E1, "royalblue"), (0x4682B4, "steelblue"),
   (0x483D8B, "darkslateblue"), (0x48D1CC, "mediumturquoise"), (0x4B0082, "indigo"),
   (0x556B2F, "darkolivegreen"), (0x5F9EA0, "cadetblue"), (0x6495ED, "cornflowerblue"),
   (0x66CDAA, "mediumaquamarine"), (0x696969, "dimgray"), (0x6A5ACD, "slateblue"),
   (0x6B8E23, "olivedrab"), (0x708090, "slategray"), (0x778899, "lightslategray"),
   (0x7B68EE, "mediumslateblue"), (0x7CFC00, "lawngreen"), (0x7FFF00, "chartreuse"),
   (0x7FFFD4, "aquamarine"), (0x800000, "maroon"), (0x800080, "purple"), (0x808000, "olive"),
   (0x808080, "gray"), (0x87CEEB, "skyblue"), (0x87CEFA, "lightskyblue"), (0x8A2BE2, "blueviolet"),
   (0x8B0000, "darkred"), (0x8B008B, "darkmagenta"), (0x8B4513, "saddlebrown"),
   (0x8FBC8F, "darkseagreen"), (0x90EE90, "lightgreen"), (0x9370DB, "mediumpurple"),
   (0x9400D3, "darkviolet"), (0x98FB98, "palegreen"), (0x9932CC, "darkorchid"),
   (0x9ACD32, "yellowgreen"), (0xA0522D, "sienna"), (0xA52A2A, "brown"), (0xA9A9A9, "darkgray"),
   (0xADD8E6, "lightblue"), (0xADFF2F, "greenyellow"), (0xAFEEEE, "paleturquoise"),
   (0xB0C4DE, "lightsteelblue"), (0xB0E0E6, "powderblue"), (0xB22222, "firebrick"),
   (0xB8860B, "darkgoldenrod"), (0xBA55D3, "mediumorchid"), (0xBC8F8F, "rosybrown"),
   (0xBDB76B, "darkkhaki"), (0xC0C0C0, "silver"), (0xC71585, "mediumvioletred"),
   (0xCD5C5C, "indianred"), (0xCD853F, "peru"), (0xD2691E, "chocolate"), (0xD2B48C, "tan"),
   (0xD3D3D3, "lightgray"), (0xD8BFD8, "thistle"), (0xDA70D6, "orchid"), (0xDAA520, "goldenrod"),
   (0xDB7093, "palevioletred"), (0xDC143C, "crimson"), (0xDCDCDC, "gainsboro"), (0xDDA0DD, "plum"),
   (0xDEB887, "burlywood"), (0xE0FFFF, "lightcyan"), (0xE6E6FA, "lavender"),
   (0xE9967A, "darksalmon"), (0xEE82EE, "violet"), (0xEEE8AA, "palegoldenrod"),
   (0xF08080, "lightcoral"), (0xF0E68C, "khaki"), (0xF0F8FF, "aliceblue"), (0xF0FFF0, "honeydew"),
   (0xF0FFFF, "azure"), (0xF4A460, "sandybrown"), (0xF5DEB3, "wheat"), (0xF5F5DC, "beige"),
   (0xF5F5F5, "whitesmoke"), (0xF5FFFA, "mintcream"), (0xF8F8FF, "ghostwhite"),
   (0xFA8072, "salmon"), (0xFAEBD7, "antiquewhite"), (0xFAF0E6, "linen"),
   (0xFAFAD2, "lightgoldenrodyellow"), (0xFDF5E6, "oldlace"), (0xFF0000, "red"),
   (0xFF00FF, "magenta"), (0xFF1493, "deeppink"), (0xFF4500, "orangered"), (0xFF6347, "tomato"),
   (0xFF69B4, "hotpink"), (0xFF7F50, "coral"), (0xFF8C00, "darkorange"), (0xFFA07A, "lightsalmon"),
   (0xFFA500, "orange"), (0xFFB6C1, "lightpink"), (0xFFC0CB, "pink"), (0xFFD700, "gold"),
   (0xFFDAB9, "peachpuff"), (0xFFDEAD, "navajowhite"), (0xFFE4B5, "moccasin"),
   (0xFFE4C4, "bisque"), (0xFFE4E1, "mistyrose"), (0xFFEBCD, "blanchedalmond"),
   (0xFFEFD5, "papayawhip"), (0xFFF0F5, "lavenderblush"), (0xFFF5EE, "seashell"),
   (0xFFF8DC, "cornsilk"), (0xFFFACD, "lemonchiffon"), (0xFFFAF0, "floralwhite"),
   (0xFFFAFA, "snow"), (0xFFFF00, "yellow"), (0xFFFFE0, "lightyellow"), (0xFFFFF0, "ivory"),
   (0xFFFFFF, "white")]

/-- The name of the color with three given bytes. -/
def ofBytes? (red green blue : Nat) : Option Text :=
  (table.lookup (red * 0x10000 + green * 0x100 + blue)).map String.toList

end ColorLiteral.ColorName
