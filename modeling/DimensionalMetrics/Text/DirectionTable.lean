/-!
# Directions of characters

In which direction the Unicode characters are written.  Code points without a character have the
direction of the character before them.
-/

namespace DimensionalMetrics

/-- The rows of the table, in order of code points.  Each word holds for the characters from the
code point at its start up to that of the next word.  After a colon it says `l` for letters written
from the left, `r` for letters written from the right, `e` for European digits, `a` for Arabic
digits, `n` for signs that follow their surroundings, `m` for marks, and `x` for the characters that
separate or control lines. -/
def directionRows : Array String := #[
  "0:n 9:x e:n 1c:x 21:n 30:e 3a:n 41:l 5b:n 61:l 7b:n 85:x 86:n aa:l ab:n b2:e b4:n b5:l b6:n",
  "b9:e ba:l bb:n c0:l d7:n d8:l f7:n f8:l 2b9:n 2bb:l 2c2:n 2d0:l 2d2:n 2e0:l 2e5:n 2ee:l",
  "2ef:n 300:m 370:l 374:n 376:l 37e:n 37f:l 384:n 386:l 387:n 388:l 3f6:n 3f7:l 483:m 48a:l",
  "58a:n 591:m 5be:r 5bf:m 5c0:r 5c1:m 5c3:r 5c4:m 5c6:r 5c7:m 5d0:r 600:a 606:n 608:r 609:n",
  "60b:r 60c:n 60d:r 60e:n 610:m 61b:r 64b:m 660:a 66a:n 66b:a 66d:r 670:m 671:r 6d6:m 6dd:a",
  "6de:n 6df:m 6e5:r 6e7:m 6e9:n 6ea:m 6ee:r 6f0:e 6fa:r 711:m 712:r 730:m 74d:r 7a6:m 7b1:r",
  "7eb:m 7f4:r 7f6:n 7fa:r 7fd:m 7fe:r 816:m 81a:r 81b:m 824:r 825:m 828:r 829:m 830:r 859:m",
  "85e:r 890:a 897:m 8a0:r 8ca:m 8e2:a 8e3:m 903:l 93a:m 93b:l 93c:m 93d:l 941:m 949:l 94d:m",
  "94e:l 951:m 958:l 962:m 964:l 981:m 982:l 9bc:m 9bd:l 9c1:m 9c7:l 9cd:m 9ce:l 9e2:m 9e6:l",
  "9f2:n 9f4:l 9fb:n 9fc:l 9fe:m a03:l a3c:m a3e:l a41:m a59:l a70:m a72:l a75:m a76:l a81:m",
  "a83:l abc:m abd:l ac1:m ac9:l acd:m ad0:l ae2:m ae6:l af1:n af9:l afa:m b02:l b3c:m b3d:l",
  "b3f:m b40:l b41:m b47:l b4d:m b57:l b62:m b66:l b82:m b83:l bc0:m bc1:l bcd:m bd0:l bf3:n",
  "c00:m c01:l c04:m c05:l c3c:m c3d:l c3e:m c41:l c46:m c58:l c62:m c66:l c78:n c7f:l c81:m",
  "c82:l cbc:m cbd:l ccc:m cd5:l ce2:m ce6:l d00:m d02:l d3b:m d3d:l d41:m d46:l d4d:m d4e:l",
  "d62:m d66:l d81:m d82:l dca:m dcf:l dd2:m dd8:l e31:m e32:l e34:m e3f:n e40:l e47:m e4f:l",
  "eb1:m eb2:l eb4:m ebd:l ec8:m ed0:l f18:m f1a:l f35:m f36:l f37:m f38:l f39:m f3a:n f3e:l",
  "f71:m f7f:l f80:m f85:l f86:m f88:l f8d:m fbe:l fc6:m fc7:l 102d:m 1031:l 1032:m 1038:l",
  "1039:m 103b:l 103d:m 103f:l 1058:m 105a:l 105e:m 1061:l 1071:m 1075:l 1082:m 1083:l 1085:m",
  "1087:l 108d:m 108e:l 109d:m 109e:l 135d:m 1360:l 1390:n 13a0:l 1400:n 1401:l 1680:x 1681:l",
  "169b:n 16a0:l 1712:m 1715:l 1732:m 1734:l 1752:m 1760:l 1772:m 1780:l 17b4:m 17b6:l 17b7:m",
  "17be:l 17c6:m 17c7:l 17c9:m 17d4:l 17db:n 17dc:l 17dd:m 17e0:l 17f0:n 180b:m 180e:n 180f:m",
  "1810:l 1885:m 1887:l 18a9:m 18aa:l 1920:m 1923:l 1927:m 1929:l 1932:m 1933:l 1939:m 1940:n",
  "1946:l 19de:n 1a00:l 1a17:m 1a19:l 1a1b:m 1a1e:l 1a56:m 1a57:l 1a58:m 1a61:l 1a62:m 1a63:l",
  "1a65:m 1a6d:l 1a73:m 1a80:l 1ab0:m 1b04:l 1b34:m 1b35:l 1b36:m 1b3b:l 1b3c:m 1b3d:l 1b42:m",
  "1b43:l 1b6b:m 1b74:l 1b80:m 1b82:l 1ba2:m 1ba6:l 1ba8:m 1baa:l 1bab:m 1bae:l 1be6:m 1be7:l",
  "1be8:m 1bea:l 1bed:m 1bee:l 1bef:m 1bf2:l 1c2c:m 1c34:l 1c36:m 1c3b:l 1cd0:m 1cd3:l 1cd4:m",
  "1ce1:l 1ce2:m 1ce9:l 1ced:m 1cee:l 1cf4:m 1cf5:l 1cf8:m 1cfa:l 1dc0:m 1e00:l 1fbd:n 1fbe:l",
  "1fbf:n 1fc2:l 1fcd:n 1fd0:l 1fdd:n 1fe0:l 1fed:n 1ff2:l 1ffd:n 2000:x 200b:n 200e:l 200f:r",
  "2010:n 2028:x 202f:n 205f:x 2060:n 2066:x 206a:n 2070:e 2071:l 2074:e 207a:n 207f:l 2080:e",
  "208a:n 2090:l 20a0:n 20d0:m 2100:n 2102:l 2103:n 2107:l 2108:n 210a:l 2114:n 2115:l 2116:n",
  "2119:l 211e:n 2124:l 2125:n 2126:l 2127:n 2128:l 2129:n 212a:l 212e:n 212f:l 213a:n 213c:l",
  "2140:n 2145:l 214a:n 214e:l 2150:n 2160:l 2189:n 2336:l 237b:n 2395:l 2396:n 2488:e 249c:l",
  "24ea:n 26ac:l 26ad:n 2800:l 2900:n 2c00:l 2ce5:n 2ceb:l 2cef:m 2cf2:l 2cf9:n 2d00:l 2d7f:m",
  "2d80:l 2de0:m 2e00:n 3000:x 3001:n 3005:l 3008:n 3021:l 302a:m 302e:l 3030:n 3031:l 3036:n",
  "3038:l 303d:n 3041:l 3099:m 309b:n 309d:l 30a0:n 30a1:l 30fb:n 30fc:l 31c0:n 31f0:l 321d:n",
  "3220:l 3250:n 3260:l 327c:n 327f:l 32b1:n 32c0:l 32cc:n 32d0:l 3377:n 337b:l 33de:n 33e0:l",
  "33ff:n 3400:l 4dc0:n 4e00:l a490:n a4d0:l a60d:n a610:l a66f:m a673:n a674:m a67e:n a680:l",
  "a69e:m a6a0:l a6f0:m a6f2:l a700:n a722:l a788:n a789:l a802:m a803:l a806:m a807:l a80b:m",
  "a80c:l a825:m a827:l a828:n a82c:m a830:l a838:n a840:l a874:n a880:l a8c4:m a8ce:l a8e0:m",
  "a8f2:l a8ff:m a900:l a926:m a92e:l a947:m a952:l a980:m a983:l a9b3:m a9b4:l a9b6:m a9ba:l",
  "a9bc:m a9be:l a9e5:m a9e6:l aa29:m aa2f:l aa31:m aa33:l aa35:m aa40:l aa43:m aa44:l aa4c:m",
  "aa4d:l aa7c:m aa7d:l aab0:m aab1:l aab2:m aab5:l aab7:m aab9:l aabe:m aac0:l aac1:m aac2:l",
  "aaec:m aaee:l aaf6:m ab01:l ab6a:n ab6c:l abe5:m abe6:l abe8:m abe9:l abed:m abf0:l fb1d:r",
  "fb1e:m fb1f:r fb29:n fb2a:r fbc3:n fbd3:r fd3e:n fd50:r fd90:n fd92:r fdc8:n fdf0:r fdfd:n",
  "fe00:m fe10:n fe20:m fe30:n fe70:r feff:n ff10:e ff1a:n ff21:l ff3b:n ff41:l ff5b:n ff66:l",
  "ffe0:n 10000:l 10101:n 10102:l 10140:n 1018d:l 10190:n 101d0:l 101fd:m 10280:l 102e0:m",
  "102e1:e 10300:l 10376:m 10380:l 10800:r 1091f:n 10920:r 10a01:m 10a10:r 10a38:m 10a40:r",
  "10ae5:m 10aeb:r 10b39:n 10b40:r 10d24:m 10d30:a 10d4a:r 10d69:m 10d6e:n 10d6f:r 10e60:a",
  "10e80:r 10eab:m 10ead:r 10ed0:n 10efa:m 10f00:r 10f46:m 10f51:r 10f82:m 10f86:r 11000:l",
  "11001:m 11002:l 11038:m 11047:l 11052:n 11066:l 11070:m 11071:l 11073:m 11075:l 1107f:m",
  "11082:l 110b3:m 110b7:l 110b9:m 110bb:l 110c2:m 110cd:l 11100:m 11103:l 11127:m 1112c:l",
  "1112d:m 11136:l 11173:m 11174:l 11180:m 11182:l 111b6:m 111bf:l 111c9:m 111cd:l 111cf:m",
  "111d0:l 1122f:m 11232:l 11234:m 11235:l 11236:m 11238:l 1123e:m 1123f:l 11241:m 11280:l",
  "112df:m 112e0:l 112e3:m 112f0:l 11300:m 11302:l 1133b:m 1133d:l 11340:m 11341:l 11366:m",
  "11380:l 113bb:m 113c2:l 113ce:m 113cf:l 113d0:m 113d1:l 113d2:m 113d3:l 113e1:m 11400:l",
  "11438:m 11440:l 11442:m 11445:l 11446:m 11447:l 1145e:m 1145f:l 114b3:m 114b9:l 114ba:m",
  "114bb:l 114bf:m 114c1:l 114c2:m 114c4:l 115b2:m 115b8:l 115bc:m 115be:l 115bf:m 115c1:l",
  "115dc:m 11600:l 11633:m 1163b:l 1163d:m 1163e:l 1163f:m 11641:l 11660:n 11680:l 116ab:m",
  "116ac:l 116ad:m 116ae:l 116b0:m 116b6:l 116b7:m 116b8:l 1171d:m 1171e:l 1171f:m 11720:l",
  "11722:m 11726:l 11727:m 11730:l 1182f:m 11838:l 11839:m 1183b:l 1193b:m 1193d:l 1193e:m",
  "1193f:l 11943:m 11944:l 119d4:m 119dc:l 119e0:m 119e1:l 11a01:m 11a07:l 11a09:m 11a0b:l",
  "11a33:m 11a39:l 11a3b:m 11a3f:l 11a47:m 11a50:l 11a51:m 11a57:l 11a59:m 11a5c:l 11a8a:m",
  "11a97:l 11a98:m 11a9a:l 11b60:m 11b61:l 11b62:m 11b65:l 11b66:m 11b67:l 11c30:m 11c3e:l",
  "11c92:m 11ca9:l 11caa:m 11cb1:l 11cb2:m 11cb4:l 11cb5:m 11d00:l 11d31:m 11d46:l 11d47:m",
  "11d50:l 11d90:m 11d93:l 11d95:m 11d96:l 11d97:m 11d98:l 11ef3:m 11ef5:l 11f00:m 11f02:l",
  "11f36:m 11f3e:l 11f40:m 11f41:l 11f42:m 11f43:l 11f5a:m 11fb0:l 11fd5:n 11fff:l 13440:m",
  "13441:l 13447:m 13460:l 1611e:m 1612a:l 1612d:m 16130:l 16af0:m 16af5:l 16b30:m 16b37:l",
  "16f4f:m 16f50:l 16f8f:m 16f93:l 16fe2:n 16fe3:l 16fe4:m 16ff0:l 1bc9d:m 1bc9f:l 1bca0:n",
  "1ccd6:l 1ccf0:e 1ccfa:n 1cf00:m 1cf50:l 1d167:m 1d16a:l 1d173:n 1d17b:m 1d183:l 1d185:m",
  "1d18c:l 1d1aa:m 1d1ae:l 1d1e9:n 1d242:m 1d245:n 1d2c0:l 1d300:n 1d360:l 1d6db:n 1d6dc:l",
  "1d715:n 1d716:l 1d74f:n 1d750:l 1d789:n 1d78a:l 1d7c3:n 1d7c4:l 1d7ce:e 1d800:l 1da00:m",
  "1da37:l 1da3b:m 1da6d:l 1da75:m 1da76:l 1da84:m 1da85:l 1da9b:m 1df00:l 1e000:m 1e030:l",
  "1e08f:m 1e100:l 1e130:m 1e137:l 1e2ae:m 1e2c0:l 1e2ec:m 1e2f0:l 1e2ff:n 1e4d0:l 1e4ec:m",
  "1e4f0:l 1e5ee:m 1e5f0:l 1e6e3:m 1e6e4:l 1e6e6:m 1e6e7:l 1e6ee:m 1e6f0:l 1e6f5:m 1e6fe:l",
  "1e800:r 1e8d0:m 1e900:r 1e944:m 1e94b:r 1eef0:n 1f100:e 1f10b:n 1f110:l 1f12f:n 1f130:l",
  "1f16a:n 1f170:l 1f1ad:n 1f1e6:l 1f260:n 1fbf0:e 1fbfa:n 20000:l e0001:n e0100:m f0000:l"]

end DimensionalMetrics
