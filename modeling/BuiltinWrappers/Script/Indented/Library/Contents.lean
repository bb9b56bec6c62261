/-!
# Contents

Digests and codings of contents.
-/

namespace BuiltinWrappers.Script.Indented.Library

/-- Digests of contents. -/
def digests : String := r#"
  |from _contents import digest as _digest
  |algorithms_guaranteed = algorithms_available = frozenset(
  |    ['md5', 'sha1', 'sha224', 'sha256', 'sha384', 'sha512'])
  |_blocks = dict(md5=64, sha1=64, sha224=64, sha256=64, sha384=128, sha512=128)
  |
  |class _Hash:
  |    def __init__(self, name, data=b''):
  |        self.name = name
  |        self.block_size = _blocks[name]
  |        self._data = bytes(data)
  |    @property
  |    def digest_size(self):
  |        return len(self.digest())
  |    def update(self, data):
  |        if isinstance(data, str):
  |            raise TypeError('Strings must be encoded before hashing')
  |        self._data += bytes(data)
  |    def digest(self):
  |        return _digest(self.name, self._data)
  |    def hexdigest(self):
  |        return self.digest().hex()
  |    def copy(self):
  |        return _Hash(self.name, self._data)
  |
  |def new(name, data=b'', *, usedforsecurity=True):
  |    name = name.lower().replace('-', '')
  |    if name not in _blocks:
  |        raise ValueError('unsupported hash type ' + name)
  |    if isinstance(data, str):
  |        raise TypeError('Strings must be encoded before hashing')
  |    return _Hash(name, data)
  |
  |def md5(string=b'', *, usedforsecurity=True):
  |    return new('md5', string)
  |
  |def sha1(string=b'', *, usedforsecurity=True):
  |    return new('sha1', string)
  |
  |def sha224(string=b'', *, usedforsecurity=True):
  |    return new('sha224', string)
  |
  |def sha256(string=b'', *, usedforsecurity=True):
  |    return new('sha256', string)
  |
  |def sha384(string=b'', *, usedforsecurity=True):
  |    return new('sha384', string)
  |
  |def sha512(string=b'', *, usedforsecurity=True):
  |    return new('sha512', string)
  |
  |def file_digest(fileobj, digest, /, *, _bufsize=2**18):
  |    made = new(digest) if isinstance(digest, str) else digest()
  |    made.update(fileobj.read())
  |    return made
  |
  |def _blocks_of(name, password, salt):
  |    import hmac
  |    return hmac.new(password, salt, name).digest()
  |
  |def pbkdf2_hmac(hash_name, password, salt, iterations, dklen=None):
  |    size = len(_digest(hash_name, b''))
  |    dklen = dklen or size
  |    found = b''
  |    block = 1
  |    while len(found) < dklen:
  |        u = _blocks_of(hash_name, password, salt + block.to_bytes(4, 'big'))
  |        total = int.from_bytes(u, 'big')
  |        for i in range(iterations - 1):
  |            u = _blocks_of(hash_name, password, u)
  |            total ^= int.from_bytes(u, 'big')
  |        found += total.to_bytes(size, 'big')
  |        block += 1
  |    return found[:dklen]"#

/-- Digests that need a key. -/
def keyedDigests : String := r#"
  |import hashlib
  |
  |class HMAC:
  |    def __init__(self, key, msg=None, digestmod=''):
  |        if not digestmod:
  |            raise TypeError("Missing required argument 'digestmod'.")
  |        if callable(digestmod):
  |            self._make = digestmod
  |        elif isinstance(digestmod, str):
  |            self._make = lambda data=b'': hashlib.new(digestmod, data)
  |        else:
  |            self._make = lambda data=b'': digestmod.new(data)
  |        self._key = key
  |        self._data = msg or b''
  |        made = self._make()
  |        self.digest_size = made.digest_size
  |        self.block_size = made.block_size
  |        self.name = 'hmac-' + made.name
  |    def update(self, msg):
  |        self._data += msg
  |    def copy(self):
  |        return HMAC(self._key, self._data, self._make)
  |    def digest(self):
  |        key = self._key
  |        if len(key) > self.block_size:
  |            key = self._make(key).digest()
  |        key = key + bytes(self.block_size - len(key))
  |        inner = self._make(bytes(x ^ 0x36 for x in key) + self._data).digest()
  |        return self._make(bytes(x ^ 0x5c for x in key) + inner).digest()
  |    def hexdigest(self):
  |        return self.digest().hex()
  |
  |def new(key, msg=None, digestmod=''):
  |    return HMAC(key, msg, digestmod)
  |
  |def digest(key, msg, digest):
  |    return HMAC(key, msg, digest).digest()
  |
  |def compare_digest(a, b):
  |    return a == b"#

/-- Contents as texts. -/
def textCodings : String := r#"
  |import binascii as _binascii
  |_signs = b'ABCDEFGHIJKLMNOPQRSTUVWXYZabcdefghijklmnopqrstuvwxyz0123456789+/'
  |_signs32 = b'ABCDEFGHIJKLMNOPQRSTUVWXYZ234567'
  |_signs32hex = b'0123456789ABCDEFGHIJKLMNOPQRSTUV'
  |
  |def _octets(s):
  |    if isinstance(s, str):
  |        try:
  |            return s.encode('ascii')
  |        except UnicodeEncodeError:
  |            raise ValueError('string argument should contain only ASCII characters') from None
  |    return bytes(s)
  |
  |def b64encode(s, altchars=None):
  |    if isinstance(s, str):
  |        raise TypeError("a bytes-like object is required, not 'str'")
  |    found = _binascii.b2a_base64(s, newline=False)
  |    if altchars is not None:
  |        found = found.translate(bytes.maketrans(b'+/', altchars))
  |    return found
  |
  |def b64decode(s, altchars=None, validate=False):
  |    s = _octets(s)
  |    if altchars is not None:
  |        s = s.translate(bytes.maketrans(_octets(altchars), b'+/'))
  |    return _binascii.a2b_base64(s, strict_mode=validate)
  |
  |def standard_b64encode(s):
  |    return b64encode(s)
  |
  |def standard_b64decode(s):
  |    return b64decode(s)
  |
  |def urlsafe_b64encode(s):
  |    return b64encode(s, b'-_')
  |
  |def urlsafe_b64decode(s):
  |    return b64decode(s, b'-_')
  |
  |def _encode32(signs, s):
  |    s = bytes(s)
  |    left = len(s) % 5
  |    padded = s + bytes(5 - left) if left else s
  |    out = bytearray()
  |    for i in range(0, len(padded), 5):
  |        c = int.from_bytes(padded[i:i + 5], 'big')
  |        for shift in range(35, -1, -5):
  |            out.append(signs[c >> shift & 31])
  |    pad = (0, 6, 4, 3, 1)[left]
  |    if pad:
  |        out[-pad:] = b'=' * pad
  |    return bytes(out)
  |
  |def _decode32(signs, s, casefold):
  |    s = _octets(s)
  |    if len(s) % 8:
  |        raise _binascii.Error('Incorrect padding')
  |    if casefold:
  |        s = s.upper()
  |    size = len(s)
  |    s = s.rstrip(b'=')
  |    pad = size - len(s)
  |    out = bytearray()
  |    acc = 0
  |    for i in range(0, len(s), 8):
  |        acc = 0
  |        quanta = s[i:i + 8]
  |        for c in quanta:
  |            place = signs.find(bytes([c]))
  |            if place < 0:
  |                raise _binascii.Error('Non-base32 digit found')
  |            acc = (acc << 5) + place
  |        acc <<= 5 * (8 - len(quanta))
  |        out += acc.to_bytes(5, 'big')
  |    if pad not in (0, 1, 3, 4, 6):
  |        raise _binascii.Error('Incorrect padding')
  |    if pad:
  |        out = out[:len(out) - 5 + (43 - 5 * pad) // 8]
  |    return bytes(out)
  |
  |def b32encode(s):
  |    return _encode32(_signs32, s)
  |
  |def b32decode(s, casefold=False, map01=None):
  |    return _decode32(_signs32, s, casefold)
  |
  |def b32hexencode(s):
  |    return _encode32(_signs32hex, s)
  |
  |def b32hexdecode(s, casefold=False):
  |    return _decode32(_signs32hex, s, casefold)
  |
  |def b16encode(s):
  |    return bytes(s).hex().upper().encode()
  |
  |def b16decode(s, casefold=False):
  |    s = _octets(s)
  |    if casefold:
  |        s = s.upper()
  |    if any(c not in b'0123456789ABCDEF' for c in s):
  |        raise _binascii.Error('Non-base16 digit found')
  |    return _binascii.unhexlify(s)
  |
  |def encodebytes(s):
  |    return b''.join(_binascii.b2a_base64(s[i:i + 57]) for i in range(0, len(s), 57))
  |
  |def decodebytes(s):
  |    return _binascii.a2b_base64(s)
  |
  |_signs85 = (b'0123456789ABCDEFGHIJKLMNOPQRSTUVWXYZabcdefghijklmnopqrstuvwxyz!#$%&()*+-;<=>?@^_`'
  |            + bytes([123, 124, 125, 126]))
  |
  |def b85encode(b, pad=False):
  |    return _encode85(bytes(b), _signs85, pad)
  |
  |def _encode85(b, signs, pad, fold=False):
  |    padding = -len(b) % 4
  |    padded = b + bytes(padding)
  |    out = bytearray()
  |    for i in range(0, len(padded), 4):
  |        word = int.from_bytes(padded[i:i + 4], 'big')
  |        if fold and word == 0:
  |            out += b'z'
  |            continue
  |        part = bytearray()
  |        for k in range(5):
  |            part.append(signs[word % 85])
  |            word //= 85
  |        part.reverse()
  |        out += part
  |    if padding and not pad:
  |        if fold and out.endswith(b'z'):
  |            out[-1:] = signs[:1] * 5
  |        out = out[:-padding]
  |    return bytes(out)
  |
  |def a85encode(b, *, foldspaces=False, wrapcol=0, pad=False, adobe=False):
  |    return _encode85(bytes(b), bytes(range(33, 118)), pad, True)
  |
  |def b85decode(b):
  |    b = _octets(b)
  |    padding = -len(b) % 5
  |    b += b'~' * padding
  |    out = bytearray()
  |    for i in range(0, len(b), 5):
  |        acc = 0
  |        for c in b[i:i + 5]:
  |            place = _signs85.find(bytes([c]))
  |            if place < 0:
  |                raise ValueError('bad base85 character at position %d' % i)
  |            acc = acc * 85 + place
  |        out += acc.to_bytes(4, 'big')
  |    return bytes(out[:len(out) - padding])"#

/-- Contents as digits. -/
def digitCodings : String := r#"
  |from _contents import remainder as _remainder
  |_signs = b'ABCDEFGHIJKLMNOPQRSTUVWXYZabcdefghijklmnopqrstuvwxyz0123456789+/'
  |_places = dict((c, i) for i, c in enumerate(_signs))
  |
  |class Error(ValueError):
  |    pass
  |
  |class Incomplete(Exception):
  |    pass
  |
  |def crc32(data, value=0):
  |    return _remainder(bytes(data), value)
  |
  |def hexlify(data, sep=None, bytes_per_sep=1):
  |    if sep is None:
  |        return bytes(data).hex().encode()
  |    return bytes(data).hex(sep, bytes_per_sep).encode()
  |
  |b2a_hex = hexlify
  |
  |def unhexlify(hexstr):
  |    if isinstance(hexstr, str):
  |        hexstr = hexstr.encode()
  |    text = bytes(hexstr).decode('latin-1')
  |    if len(text) % 2:
  |        raise Error('Odd-length string')
  |    if any(c not in '0123456789abcdefABCDEF' for c in text):
  |        raise Error('Non-hexadecimal digit found')
  |    return bytes.fromhex(text)
  |
  |a2b_hex = unhexlify
  |
  |def b2a_base64(data, *, newline=True):
  |    data = bytes(data)
  |    out = bytearray()
  |    for i in range(0, len(data), 3):
  |        part = data[i:i + 3]
  |        n = int.from_bytes(part + bytes(3 - len(part)), 'big')
  |        out.append(_signs[n >> 18])
  |        out.append(_signs[n >> 12 & 63])
  |        out.append(_signs[n >> 6 & 63] if len(part) > 1 else 61)
  |        out.append(_signs[n & 63] if len(part) > 2 else 61)
  |    if newline:
  |        out.append(10)
  |    return bytes(out)
  |
  |def a2b_base64(data, *, strict_mode=False):
  |    if isinstance(data, str):
  |        data = data.encode('ascii')
  |    out = bytearray()
  |    count = pads = left = 0
  |    done = False
  |    for c in bytes(data):
  |        if c == 61:
  |            if count >= 2:
  |                pads += 1
  |                if count + pads >= 4:
  |                    done = True
  |                    break
  |            continue
  |        place = _places.get(c)
  |        if place is None:
  |            if strict_mode:
  |                raise Error('Only base64 data is allowed')
  |            continue
  |        pads = 0
  |        left = left << 6 | place
  |        count += 1
  |        if count == 4:
  |            out += left.to_bytes(3, 'big')
  |            count = left = 0
  |    if count and not done:
  |        if count == 1:
  |            raise Error('Invalid base64-encoded string: number of data characters (%d) cannot '
  |                        'be 1 more than a multiple of 4' % (len(out) // 3 * 4 + 1))
  |        raise Error('Incorrect padding')
  |    if count == 2:
  |        out.append(left >> 4)
  |    elif count == 3:
  |        out += (left >> 2).to_bytes(2, 'big')
  |    return bytes(out)"#

def checks : String := r#"
  |from _contents import remainder as _remainder
  |
  |class error(Exception):
  |    pass
  |
  |def crc32(data, value=0):
  |    return _remainder(bytes(data), value)
  |
  |def adler32(data, value=1):
  |    a, b = value & 0xffff, value >> 16 & 0xffff
  |    for c in bytes(data):
  |        a = (a + c) % 65521
  |        b = (b + a) % 65521
  |    return b << 16 | a"#

/-- Numbers laid out in octets. -/
def layouts : String := r#"
  |from _reals import bits as _bits, of_bits as _of_bits, short_bits as _short_bits
  |from _reals import of_short_bits as _of_short_bits
  |
  |class error(Exception):
  |    pass
  |
  |_sizes = dict(x=1, c=1, b=1, B=1, h=2, H=2, i=4, I=4, l=4, L=4, q=8, Q=8, e=2, f=4, d=8, s=1,
  |              p=1)
  |_sizes['?'] = 1
  |_native = dict(l=8, L=8, n=8, N=8, P=8)
  |
  |def _read(fmt):
  |    if isinstance(fmt, bytes):
  |        fmt = fmt.decode()
  |    order, aligned = '<', True
  |    if fmt[:1] in ('@', '=', '<', '>', '!'):
  |        order = '>' if fmt[0] in '>!' else '<'
  |        aligned = fmt[0] == '@'
  |        fmt = fmt[1:]
  |    items = []
  |    count = ''
  |    place = 0
  |    for c in fmt:
  |        if c.isspace():
  |            continue
  |        if c.isdigit():
  |            count += c
  |            continue
  |        size = _native.get(c) if aligned and c in _native else _sizes.get(c)
  |        if size is None:
  |            raise error('bad char in struct format')
  |        if aligned and place % size and c not in 'sp':
  |            pad = size - place % size
  |            items.append(('x', pad, 1))
  |            place += pad
  |        n = int(count) if count else 1
  |        items.append((c, n, size))
  |        place += n * size
  |        count = ''
  |    if count:
  |        raise error('repeat count given without format specifier')
  |    return order, items, place
  |
  |def calcsize(fmt):
  |    return _read(fmt)[2]
  |
  |def _count(items):
  |    return sum(0 if c == 'x' else 1 if c in 'sp' else n for c, n, size in items)
  |
  |def _half(x):
  |    n = _bits(float(x))
  |    sign = n >> 63 << 15
  |    x = abs(float(x))
  |    if x != x:
  |        return sign | 0x7e00
  |    if x == float('inf'):
  |        return sign | 0x7c00
  |    scaled = x * 2.0 ** 24
  |    if x < 2.0 ** -14:
  |        return sign | round(scaled)
  |    e = 0
  |    while x >= 2.0 ** (e + 1):
  |        e += 1
  |    while x < 2.0 ** e:
  |        e -= 1
  |    m = round(x / 2.0 ** e * 1024) - 1024
  |    found = (e + 15 << 10) + m
  |    if found >= 0x7c00:
  |        raise OverflowError('float too large to pack with e format')
  |    return sign | found
  |
  |def _of_half(n):
  |    sign = -1.0 if n >> 15 else 1.0
  |    e, m = n >> 10 & 31, n & 1023
  |    if e == 31:
  |        return sign * float('inf') if m == 0 else float('nan')
  |    if e == 0:
  |        return sign * m * 2.0 ** -24
  |    return sign * (1024 + m) * 2.0 ** (e - 25)
  |
  |def _one(c, size, order, value):
  |    big = 'big' if order == '>' else 'little'
  |    if c == 'c':
  |        if not isinstance(value, (bytes, bytearray)) or len(value) != 1:
  |            raise error('char format requires a bytes object of length 1')
  |        return bytes(value)
  |    if c == '?':
  |        return b'\x01' if value else b'\x00'
  |    if c in 'efd':
  |        if not isinstance(value, (int, float)):
  |            raise error('required argument is not a float')
  |        if c == 'd':
  |            return _bits(float(value)).to_bytes(8, big)
  |        if c == 'e':
  |            return _half(value).to_bytes(2, big)
  |        n = _short_bits(float(value))
  |        if n & 0x7fffffff == 0x7f800000 and abs(value) != float('inf'):
  |            raise OverflowError('float too large to pack with f format')
  |        return n.to_bytes(4, big)
  |    if not isinstance(value, int):
  |        index = getattr(type(value), '__index__', None)
  |        if index is None:
  |            raise error('required argument is not an integer')
  |        value = index(value)
  |    signed = c in 'bhilqn'
  |    low = -(1 << 8 * size - 1) if signed else 0
  |    high = (1 << 8 * size - 1) - 1 if signed else (1 << 8 * size) - 1
  |    if not low <= value <= high:
  |        if size == 8:
  |            raise error('argument out of range')
  |        name = dict(b='byte', B='ubyte', h='short', H='ushort').get(c, "'%s'" % c)
  |        raise error('%s format requires %d <= number <= %d' % (name, low, high))
  |    return int(value).to_bytes(size, big, signed=signed)
  |
  |def pack(fmt, *values):
  |    order, items, total = _read(fmt)
  |    if len(values) != _count(items):
  |        raise error('pack expected %d items for packing (got %d)' % (_count(items), len(values)))
  |    parts = []
  |    rest = list(values)
  |    for c, n, size in items:
  |        if c == 'x':
  |            parts.append(bytes(n))
  |        elif c == 's':
  |            value = rest.pop(0)
  |            if not isinstance(value, (bytes, bytearray)):
  |                raise error("argument for 's' must be a bytes object")
  |            value = bytes(value)[:n]
  |            parts.append(value + bytes(n - len(value)))
  |        elif c == 'p':
  |            value = bytes(rest.pop(0))[:max(n - 1, 0)]
  |            parts.append(bytes([len(value)]) + value + bytes(n - 1 - len(value)))
  |        else:
  |            for i in range(n):
  |                parts.append(_one(c, size, order, rest.pop(0)))
  |    return b''.join(parts)
  |
  |def pack_into(fmt, buffer, offset, *values):
  |    data = pack(fmt, *values)
  |    buffer[offset:offset + len(data)] = data
  |
  |def unpack(fmt, buffer):
  |    order, items, total = _read(fmt)
  |    buffer = bytes(buffer)
  |    if len(buffer) != total:
  |        raise error('unpack requires a buffer of %d bytes' % total)
  |    return _taken(order, items, buffer, 0)
  |
  |def _taken(order, items, buffer, place):
  |    big = 'big' if order == '>' else 'little'
  |    found = []
  |    for c, n, size in items:
  |        if c == 'x':
  |            place += n
  |        elif c == 's':
  |            found.append(buffer[place:place + n])
  |            place += n
  |        elif c == 'p':
  |            found.append(buffer[place + 1:place + 1 + min(buffer[place], n - 1)])
  |            place += n
  |        else:
  |            for i in range(n):
  |                part = buffer[place:place + size]
  |                place += size
  |                if c == 'c':
  |                    found.append(part)
  |                elif c == '?':
  |                    found.append(part != b'\x00')
  |                elif c == 'd':
  |                    found.append(_of_bits(int.from_bytes(part, big)))
  |                elif c == 'f':
  |                    found.append(_of_short_bits(int.from_bytes(part, big)))
  |                elif c == 'e':
  |                    found.append(_of_half(int.from_bytes(part, big)))
  |                else:
  |                    found.append(int.from_bytes(part, big, signed=c in 'bhilqn'))
  |    return tuple(found)
  |
  |def unpack_from(fmt, /, buffer, offset=0):
  |    order, items, total = _read(fmt)
  |    buffer = bytes(buffer)
  |    if len(buffer) - offset < total:
  |        raise error('unpack_from requires a buffer of at least %d bytes for unpacking %d bytes '
  |                    'at offset %d (actual buffer size is %d)'
  |                    % (total + offset, total, offset, len(buffer)))
  |    return _taken(order, items, buffer, offset)
  |
  |def iter_unpack(fmt, buffer):
  |    order, items, total = _read(fmt)
  |    buffer = bytes(buffer)
  |    if total == 0 or len(buffer) % total:
  |        raise error('iterative unpacking requires a buffer of a multiple of %d bytes' % total)
  |    for place in range(0, len(buffer), total):
  |        yield _taken(order, items, buffer, place)
  |
  |class Struct:
  |    def __init__(self, format):
  |        self.format = format
  |        self.size = calcsize(format)
  |    def pack(self, *values):
  |        return pack(self.format, *values)
  |    def unpack(self, buffer):
  |        return unpack(self.format, buffer)
  |    def unpack_from(self, buffer, offset=0):
  |        return unpack_from(self.format, buffer, offset)
  |    def pack_into(self, buffer, offset, *values):
  |        pack_into(self.format, buffer, offset, *values)
  |    def iter_unpack(self, buffer):
  |        return iter_unpack(self.format, buffer)"#

/-- Numbers that are given only once. -/
def uniqueNumbers : String := r#"
  |import hashlib as _hashlib
  |import os as _os
  |RFC_4122 = 'specified in RFC 4122'
  |
  |class UUID:
  |    def __init__(self, hex=None, bytes=None, bytes_le=None, fields=None, int=None,
  |                 version=None):
  |        if hex is not None:
  |            hex = hex.replace('urn:', '').replace('uuid:', '')
  |            hex = hex.strip(chr(123) + chr(125)).replace('-', '')
  |            if len(hex) != 32:
  |                raise ValueError('badly formed hexadecimal UUID string')
  |            int = _int(hex, 16)
  |        if bytes is not None:
  |            if len(bytes) != 16:
  |                raise ValueError('bytes is not a 16-char string')
  |            int = _int.from_bytes(bytes, 'big')
  |        if version is not None:
  |            int &= ~(0xc000 << 48)
  |            int |= 0x8000 << 48
  |            int &= ~(0xf000 << 64)
  |            int |= version << 76
  |        self.int = int
  |    hex = property(lambda self: '%032x' % self.int)
  |    bytes = property(lambda self: self.int.to_bytes(16, 'big'))
  |    version = property(lambda self: self.int >> 76 & 0xf)
  |    variant = property(lambda self: RFC_4122)
  |    urn = property(lambda self: 'urn:uuid:' + str(self))
  |    node = property(lambda self: self.int & 0xffffffffffff)
  |    def __str__(self):
  |        h = self.hex
  |        return '-'.join((h[:8], h[8:12], h[12:16], h[16:20], h[20:]))
  |    def __repr__(self):
  |        return 'UUID(%r)' % str(self)
  |    def __int__(self):
  |        return self.int
  |    def __eq__(self, other):
  |        return self.int == other.int if isinstance(other, UUID) else NotImplemented
  |    def __lt__(self, other):
  |        return self.int < other.int if isinstance(other, UUID) else NotImplemented
  |    def __hash__(self):
  |        return hash(self.int)
  |
  |_int = int
  |
  |def uuid4():
  |    return UUID(bytes=_os.urandom(16), version=4)
  |
  |def uuid1(node=None, clock_seq=None):
  |    return UUID(bytes=_os.urandom(16), version=1)
  |
  |def uuid3(namespace, name):
  |    return UUID(bytes=_hashlib.md5(namespace.bytes + name.encode()).digest(), version=3)
  |
  |def uuid5(namespace, name):
  |    return UUID(bytes=_hashlib.sha1(namespace.bytes + name.encode()).digest()[:16], version=5)
  |
  |def getnode():
  |    return 0x020000000001
  |
  |NAMESPACE_DNS = UUID('6ba7b810-9dad-11d1-80b4-00c04fd430c8')
  |NAMESPACE_URL = UUID('6ba7b811-9dad-11d1-80b4-00c04fd430c8')
  |NAMESPACE_OID = UUID('6ba7b812-9dad-11d1-80b4-00c04fd430c8')
  |NAMESPACE_X500 = UUID('6ba7b814-9dad-11d1-80b4-00c04fd430c8')"#

end BuiltinWrappers.Script.Indented.Library
